import HidBot.Runtime.Contract

/-!
# Calls with a claim

The executors of the tickets, the mailboxes of the release, and the commit of a BLE release,
followed from access to access.
-/

namespace HidBot.Runtime

open Interleaving

variable {task : Route.Task} {interface : Interface} {words : Words}

/-! ### Tickets -/

theorem keeps_claimForBle {token : HidWorkToken} (sound : words.Sound) :
    Keeps task (fun payload now => now.Sound ∧ ∀ report, payload = some report →
      Claimed task interface token.ticketId report now) (claimForBle task interface token)
      words := by
  have lasting (payload : Option (List UInt8)) : Lasting task fun now : Words =>
      now.Sound ∧ ∀ report, payload = some report →
        Claimed task interface token.ticketId report now := fun before after now others =>
    ⟨others.sound now.1, fun report found =>
      lasting_claimed _ _ _ _ before after (now.2 report found) others⟩
  refine .change lasting_sound sound fun state sound => ?_
  have nothing (after : Words) (calm : Calm state after) : Access task state after ∧
      ∀ later, Others task after later → later.Sound ∧ ∀ report, none = some report →
        Claimed task interface token.ticketId report later :=
    ⟨calm.access, fun later others => ⟨others.sound (calm.sound sound),
      fun _ found => by cases found⟩⟩
  dsimp only
  split
  · exact nothing _ (.refl state)
  · rename_i own
    rw [not_not] at own
    split
    · exact nothing _ (.refl state)
    · split
      · rename_i canceled
        refine nothing _ (Move.turn (Move.turn_mark _ false) fun claimed => ?_).calm
        simp [canceled] at claimed
      · rename_i published
        obtain ⟨access, claimed⟩ := claim_access task interface
          { state.tickets interface with state := .claimed, bleActionPending := false } sound published rfl
        have named : (state.tickets interface).token.ticketId = token.ticketId := own ▸ rfl
        refine ⟨access, fun later => lasting _ _ _ ⟨access.sound sound, fun report found => ?_⟩⟩
        obtain rfl := Option.some.inj found
        exact named ▸ claimed
      · exact nothing _ (.refl state)

/-- A ticket that BLE reports as submitted was accepted. -/
theorem keeps_processBleReport {token : HidWorkToken} (sound : words.Sound) :
    Keeps task (fun answer now => now.Sound ∧
        (answer = true → Accepted now.record.events token.ticketId))
      (processBleReport task interface token) words := by
  have lasting (answer : Bool) : Lasting task fun now : Words => now.Sound ∧
      (answer = true → Accepted now.record.events token.ticketId) := fun _ _ now others =>
    ⟨others.sound now.1, fun yes => (now.2 yes).suffix others.grows⟩
  have refused (state : Words) (sound : state.Sound) :
      Keeps task (fun answer now => now.Sound ∧
        (answer = true → Accepted now.record.events token.ticketId))
        (pure false : Program Words Bool) state :=
    .pure (lasting false) ⟨sound, fun yes => by cases yes⟩
  refine .ite (fun _ => refused words sound) fun _ => ?_
  refine .bind (keeps_claimForBle sound) fun payload state claimed => ?_
  cases payload with
  | none => exact refused state claimed.1
  | some payload =>
      have fence : (bleFence interface token).Loads :=
        .allOf ⟨Move.bleWorkTokenCurrent_loads _, not_loads safetyPending_loads⟩
      refine .after (lasting_claimed task interface token.ticketId payload)
        (Move.loads (.allOf ⟨fence, fence⟩)) (claimed.2 payload rfl) fun fenced state claimed => ?_
      refine .ite (fun _ => .bind (keeps_settle claimed.settling (.inr ⟨.inl rfl, by decide⟩))
        fun _ state settled => refused state settled.1) fun _ => ?_
      refine .bind (keeps_submit claimed) fun answer state settling => .ite (fun _ => ?_)
        fun taken => ?_
      · refine .after (lasting_settling _ _) (Move.loads bleRouteAuthoritySnapshot_loads) settling
          fun _ _ settling => ?_
        refine .after (lasting_settling _ _) (Move.retireBleRouteIfMatches _ _ _) settling
          fun _ _ settling => ?_
        exact .bind (keeps_settle settling (.inr ⟨.inl rfl, by decide⟩))
          fun _ state settled => refused state settled.1
      · rw [not_not] at taken
        refine .after (lasting_settling _ _) (Move.acceptBleReport _) settling
          fun _ _ settling => ?_
        exact (keeps_settle settling (.inl ⟨rfl, rfl, taken⟩)).mono fun _ _ settled =>
          ⟨settled.1, fun _ => settled.2 taken⟩

theorem keeps_claimForUsb (sound : words.Sound) :
    Keeps task (fun claim now => now.Sound ∧ ∀ token report, claim = some (token, report) →
      Claimed task interface token.ticketId report now) (claimForUsb task interface) words := by
  refine .change lasting_sound sound fun state sound => ?_
  dsimp only
  split
  · rename_i published
    obtain ⟨access, claimed⟩ := claim_access task interface
      { state.tickets interface with state := .claimed } sound published.1 rfl
    refine ⟨access, fun later others => ⟨others.sound claimed.sound, fun token report found => ?_⟩⟩
    obtain ⟨rfl, rfl⟩ := by simpa using found
    exact lasting_claimed _ _ _ _ _ _ claimed others
  · exact ⟨(Calm.refl state).access, fun later others =>
      ⟨others.sound sound, fun _ _ found => by cases found⟩⟩

/-- No fence reports a ticket as submitted. -/
theorem keeps_usbFence {id : HidTicketId} {report : List UInt8} (token : HidWorkToken)
    (generation : UsbGeneration) (authority : AuthorityEpoch)
    (claimed : Claimed task interface id report words) :
    Keeps task (fun broken now => Claimed task interface id report now ∧
        broken ≠ some .submitted)
      (usbFence interface token generation authority) words := by
  have lasting := lasting_claimed task interface id report
  refine .after lasting (Move.loads (.anyOf ⟨.done _, .read _⟩)) claimed fun _ _ claimed => ?_
  refine .after lasting (Move.loads (.anyOf ⟨Move.releaseEpochLost_loads _, safetyPending_loads⟩))
    claimed fun _ _ claimed => ?_
  refine .after lasting (Move.loads (.anyOf ⟨not_loads mountedAndActive_loads,
    not_loads (unsafeRouteActive_loads _ _)⟩)) claimed fun _ _ claimed => ?_
  refine .after lasting (Move.loads (.anyOf ⟨.read _, .read _⟩)) claimed fun _ _ claimed => ?_
  refine .pure (fun before after now others => ⟨lasting before after now.1 others, now.2⟩)
    ⟨claimed, ?_⟩
  split_ifs <;> simp

theorem keeps_processTicket (generation : UsbGeneration) (authority : AuthorityEpoch)
    (sound : words.Sound) : Keeps task (fun _ => Words.Sound)
      (processTicket task interface generation authority) words := by
  have ended (answer : Bool) (state : Words) (sound : state.Sound) :
      Keeps task (fun _ => Words.Sound) (pure answer : Program Words Bool) state :=
    .pure lasting_sound sound
  refine .bind (keeps_claimForUsb sound) fun claim state claimed => ?_
  rcases claim with _ | ⟨token, report⟩
  · exact ended false state claimed.1
  have settle {accepted : Prop} {outcome : TicketOutcome} {place : TicketState}
      (ends : place = .canceled ∨ place = .notReady) (silent : outcome ≠ .submitted)
      (state : Words) (settling : Settling task interface token.ticketId accepted state) :
      Keeps task (fun _ => Words.Sound) (do
        let _ ← settleClaim interface (fun ticket => ticket.token.ticketId == token.ticketId)
          place outcome
        return false) state :=
    .bind (keeps_settle settling (.inr ⟨ends, silent⟩)) fun _ state settled =>
      ended false state settled.1
  refine .bind (keeps_usbFence token _ _ (claimed.2 token report rfl)) fun broken state fenced => ?_
  obtain ⟨claimed, silent⟩ := fenced
  cases broken with
  | some outcome =>
      exact settle (.inl rfl) (fun same => silent (congrArg some same)) state claimed.settling
  | none =>
      have lasting := lasting_claimed task interface token.ticketId report
      refine .after lasting (Move.loads (Move.usbFenceBroken_loads _)) claimed
        fun _ state claimed => .ite (fun _ => ?_) fun _ => ?_
      · refine .after lasting (Move.loads (Move.generationOrAuthorityLost_loads _)) claimed
          fun lost state claimed => settle (.inl rfl) ?_ state claimed.settling
        split <;> decide
      refine .bind (keeps_submit claimed) fun answer state settling => .ite
        (fun _ => settle (.inr rfl) (by decide) state settling) fun taken => ?_
      rw [not_not] at taken
      refine .after (lasting_settling _ _) (Move.putInFlight _) settling fun _ _ settling => ?_
      refine .after (lasting_settling _ _) (Move.attempt _) settling fun _ _ settling => ?_
      refine .after (lasting_settling _ _) (Move.storeHeld _) settling fun _ _ settling => ?_
      exact (keeps_settle settling (.inl ⟨rfl, rfl, taken⟩)).mono fun _ _ settled => settled.1

/-! ### Mailboxes -/

/-- The report of the mailbox was accepted. -/
structure Sent (interface : Interface) (slot : MailboxReport) (words : Words) : Prop where
  sound : words.Sound
  accepted : .submitted {
    origin := .mailbox slot.release, interface, token := slot.token, report := slot.report
    accepted := true } ∈ words.record.events

theorem lasting_sent (slot : MailboxReport) : Lasting task (Sent interface slot) :=
  fun _ _ sent others => ⟨others.sound sent.sound, others.grows.subset sent.accepted⟩

/-- A mailbox report that was accepted is the release of its interface. -/
theorem noteSubmitted_step {slot : MailboxReport} {generation : UsbGeneration}
    {authority : AuthorityEpoch} (kind : slot.Sound interface)
    (safety : slot.token.reportKind.isSafety = true)
    (current : slot.token.transportGeneration = generation ∧ slot.token.authorityEpoch = authority)
    (sent : Sent interface slot words) :
    ReleaseStep words { words with
      releaseTicket := words.releaseTicket.noteUsb slot.release interface generation authority
        slot.token.releaseEpoch .submitted } := by
  unfold ReleaseAllTicket.noteUsb
  split
  · exact .of_same rfl rfl
  · rename_i owned
    simp only [not_or, Bool.not_eq_false, ne_eq, not_not] at owned
    obtain ⟨-, named, pending, owns⟩ := owned
    simp only [ReleaseAllTicket.ownsUsb, Bool.and_eq_true, beq_iff_eq] at owns
    obtain ⟨⟨⟨transport, usbGeneration⟩, epoch⟩, release⟩ := owns
    split
    · rename_i none
      cases none
    · split
      · obtain ⟨report, usb⟩ := kind safety
        refine .resolved interface .submitted rfl pending
          (.released transport ⟨_, sent.accepted, ?_⟩) rfl
        exact ⟨named ▸ rfl, rfl, rfl, safety, usb, report, current.1.trans usbGeneration.symm,
          current.2.trans epoch.symm, release.symm⟩
      · exact .of_same rfl rfl

/-- Submit a mailbox report; no ticket is about it. -/
theorem keeps_submitSlot {slot : MailboxReport} (sound : words.Sound) :
    Keeps task (fun answer now => now.Sound ∧
        (answer = .stackAccepted → Sent interface slot now))
      (submit (.mailbox slot.release) interface slot.token slot.report) words := by
  refine .change lasting_sound sound fun state sound => ?_
  have access : Access task state { state with record := { state.record with
      submissions := state.record.submissions + 1
      events := .submitted {
        origin := .mailbox slot.release, interface, token := slot.token, report := slot.report
        accepted := state.record.answers state.record.submissions == .stackAccepted } ::
          state.record.events } } :=
    ⟨List.suffix_cons .., .quiet (.aside [_] rfl rfl rfl rfl fun event member => by
      obtain rfl := List.mem_singleton.mp member
      rfl), .of_same rfl, .of_same rfl rfl⟩
  refine ⟨access, fun later others => ⟨others.sound (access.sound sound), fun taken => ?_⟩⟩
  refine lasting_sent slot _ _ ⟨access.sound sound, ?_⟩ others
  have accepted : (state.record.answers state.record.submissions == .stackAccepted) = true := by
    simpa using taken
  rw [accepted]
  exact List.mem_cons_self

theorem keeps_submitMailbox {slot : MailboxReport} {generation : UsbGeneration}
    {authority : AuthorityEpoch} (sound : words.Sound) (kind : slot.Sound interface)
    (current : slot.token.transportGeneration = generation ∧
      slot.token.authorityEpoch = authority) :
    Keeps task (fun _ => Words.Sound) (submitMailbox interface slot generation authority)
      words := by
  have ended (answer : Bool) (state : Words) (sound : state.Sound) :
      Keeps task (fun _ => Words.Sound) (pure answer : Program Words Bool) state :=
    .pure lasting_sound sound
  refine .after lasting_sound (Move.loads (Move.mailboxFenceBroken_loads _)) sound
    fun _ _ sound => .ite (fun _ => .after lasting_sound (Move.storeSlot _) sound fun _ => ended _)
      fun _ => ?_
  refine .bind (keeps_submitSlot sound) fun answer state sent => .ite (fun _ => ?_) fun taken => ?_
  · refine .after lasting_sound (Move.storeSlot _) sent.1 fun _ _ sound => ?_
    exact .after lasting_sound (.onlyIf _ (Move.noteUsbPending _ _ _ _)) sound fun _ => ended _
  · rw [not_not] at taken
    have sent := sent.2 taken
    refine .after (lasting_sent slot) (Move.putInFlight _) sent fun _ _ sent => ?_
    refine .after (lasting_sent slot) (Move.attemptMailbox _) sent fun _ _ sent => ?_
    refine .bind (?_ : Keeps task (fun _ => Words.Sound) (.onlyIf _ _) _) fun _ _ sound =>
      .after lasting_sound (Move.storeSlot _) sound fun _ => ended _
    unfold Program.onlyIf
    refine .ite (fun safety state others => ?_) fun _ => .pure lasting_sound sent.sound
    have sent := lasting_sent slot _ _ sent others
    have access : Access task state { state with
        releaseTicket := state.releaseTicket.noteUsb slot.release interface generation authority
          slot.token.releaseEpoch .submitted } :=
      ⟨List.suffix_rfl, .quiet (.of_same rfl rfl rfl), .of_same rfl,
        noteSubmitted_step kind safety current sent⟩
    exact ⟨access, fun later others => others.sound (access.sound sent.sound)⟩

/-- A mailbox report that was not rejected is of the current attachment. -/
theorem keeps_rejectMailbox {slot : MailboxReport} {generation : UsbGeneration}
    {authority : AuthorityEpoch} (sound : words.Sound) :
    Keeps task (fun rejected now => now.Sound ∧ (rejected = false →
        slot.token.transportGeneration = generation ∧ slot.token.authorityEpoch = authority))
      (rejectMailbox interface slot generation authority) words := by
  refine .after lasting_sound (Move.loads (Move.staleUnsafe_loads _)) sound fun _ _ sound => ?_
  refine .after lasting_sound (Move.loads (.anyOf ⟨.read _, .read _⟩)) sound fun _ _ sound => ?_
  refine .after lasting_sound (Move.loads anySafetyRequired_loads) sound fun _ _ sound => ?_
  have store {rejected : Bool} {held : Prop} {_ : Decidable held} (state : Words)
      (sound : state.Sound) (now : rejected = false →
        slot.token.transportGeneration = generation ∧ slot.token.authorityEpoch = authority) :
      Keeps task (fun rejected now => now.Sound ∧ (rejected = false →
          slot.token.transportGeneration = generation ∧ slot.token.authorityEpoch = authority))
        (do
          .onlyIf (rejected = true) do
            .onlyIf held (requireSafety interface)
            storeSlot interface .empty
          return rejected) state :=
    .after lasting_sound (.onlyIf _ (.bind (.onlyIf _ Move.requireSafety) fun _ =>
        Move.storeSlot _)) sound fun _ _ sound =>
      .pure (fun _ _ now others => ⟨others.sound now.1, now.2⟩) ⟨sound, now⟩
  by_cases current : slot.token.transportGeneration = generation ∧
      slot.token.authorityEpoch = authority
  · exact .after lasting_sound (Move.loads (.anyOf ⟨.done _,
      not_loads (Move.transportActive_loads _), .done _⟩)) sound fun _ state sound =>
        store state sound fun _ => current
  · -- The first condition already rejects it.
    have other : (slot.token.transportGeneration != generation ||
        slot.token.authorityEpoch != authority) = true := by
      rw [Bool.or_eq_true, bne_iff_ne, bne_iff_ne]
      tauto
    have first (conditions : List (Program Words Bool)) : Program.anyOf
        ((return slot.token.transportGeneration != generation ||
          slot.token.authorityEpoch != authority) :: conditions) = return true := by
      rw [other]
      rfl
    rw [first]
    exact store _ sound fun kept => by cases kept

theorem keeps_processMailbox {generation : UsbGeneration} {authority : AuthorityEpoch}
    (sound : words.Sound) : Keeps task (fun _ => Words.Sound)
      (processMailbox interface generation authority) words := by
  have ended (answer : Bool) (state : Words) (sound : state.Sound) :
      Keeps task (fun _ => Words.Sound) (pure answer : Program Words Bool) state :=
    .pure lasting_sound sound
  refine .after lasting_sound (Move.read _) sound fun _ _ sound => .ite (fun _ =>
    .after lasting_sound (Move.storeSlot _) sound fun _ => ended _) fun _ => ?_
  have rest (state : Words) (sound : state.Sound) : Keeps task (fun _ => Words.Sound) (do
      if !(← exchangeSlot interface .ready .executing) then
        return false
      let slot ← interfaceField interface (·.slot)
      if ← rejectMailbox interface slot generation authority then
        return false
      submitMailbox interface slot generation authority) state := by
    refine .after lasting_sound (Move.exchangeSlot _ _) sound fun _ state sound =>
      .ite (fun _ => ended _ _ sound) fun _ => Program.Safe.readThen fun later others => ?_
    have sound := others.sound sound
    refine ⟨(Calm.refl later).access, ?_⟩
    refine Keeps.bind (keeps_rejectMailbox sound) fun rejected state now => .ite
      (fun _ => ended _ _ now.1) fun kept => ?_
    exact keeps_submitMailbox now.1 (sound.slots interface) (now.2 (by simpa using kept))
  refine .after lasting_sound (Move.loads (.allOf ⟨not_loads (.read _), .read _,
    not_loads (.read _)⟩)) sound fun _ state sound => .ite (fun _ => ?_) fun _ => rest state sound
  exact .after lasting_sound Move.queueSafety sound fun _ => rest

theorem keeps_anyOf {first second : Program Words Bool}
    (one : ∀ state : Words, state.Sound → Keeps task (fun _ => Words.Sound) first state)
    (two : ∀ state : Words, state.Sound → Keeps task (fun _ => Words.Sound) second state)
    (sound : words.Sound) : Keeps task (fun _ => Words.Sound) (.anyOf [first, second]) words := by
  have ended (answer : Bool) (state : Words) (sound : state.Sound) :
      Keeps task (fun _ => Words.Sound) (pure answer : Program Words Bool) state :=
    .pure lasting_sound sound
  refine .bind (one words sound) fun _ state sound => .ite (fun _ => ended _ _ sound) fun _ => ?_
  exact .bind (two state sound) fun _ state sound => .ite (fun _ => ended _ _ sound) fun _ =>
    ended _ _ sound

theorem keeps_execute (sound : words.Sound) :
    Keeps task (fun _ => Words.Sound) (execute task) words := by
  refine .after lasting_sound (Move.loads status_loads) sound fun _ state sound => .ite
    (fun _ => ?_) fun _ => .pure lasting_sound sound
  refine .after lasting_sound (Move.loads attachGeneration_loads) sound fun _ _ sound => ?_
  refine .after lasting_sound (Move.loads authorityEpoch_loads) sound fun _ _ sound => ?_
  refine .after lasting_sound (Move.consumeReleaseRequest _ _) sound fun _ _ sound => ?_
  refine .after lasting_sound (.onlyIf _ (Move.bothInterfaces fun _ => Move.publishReleaseDebt))
    sound fun _ _ sound => ?_
  refine .bind (keeps_anyOf (fun _ => keeps_processTicket _ _) (fun _ => keeps_processTicket _ _)
    sound) fun _ state sound => .ite (fun _ => .pure lasting_sound sound) fun _ => ?_
  refine .bind (keeps_anyOf (fun _ => keeps_processMailbox) (fun _ => keeps_processMailbox)
    sound) fun _ state sound => ?_
  exact .moves lasting_sound (.onlyIf _ (Move.reconcileZeroWorkRelease _ _ _ _)) sound

/-! ### The commit of a BLE release -/

/-- Both interfaces of the transaction are done, should it still be open. -/
structure ReadyToCommit (id : ReleaseAllId) (words : Words) : Prop where
  sound : words.Sound
  drawn : Drawn words.nextReleaseId id
  started : words.releaseTicket.id = id → words.releaseTicket.state ≠ .admitting
  complete : words.releaseTicket.id = id → words.releaseTicket.state = .open → ∀ interface,
    (words.releaseTicket.outcome interface).complete = true

theorem lasting_readyToCommit (id : ReleaseAllId) : Lasting task (ReadyToCommit id) := by
  intro before after ready others
  have same (named : after.releaseTicket.id = id) :
      before.releaseTicket.Later after.releaseTicket ∧ before.releaseTicket.id = id := by
    have later := others.release.ticket.resolve_right fun fresh => fresh (named ▸ ready.drawn)
    exact ⟨later, (identity_field later.identity (·.id) fun _ => rfl).symm.trans named⟩
  refine ⟨others.sound ready.sound, others.release.drawn id ready.drawn, fun named => ?_,
    fun named running interface => ?_⟩
  · obtain ⟨later, was⟩ := same named
    exact later.opened (ready.started was)
  · obtain ⟨later, was⟩ := same named
    have opened := (later.running running).resolve_right (ready.started was)
    exact later.complete opened running interface (ready.complete was opened interface)

theorem keeps_commitBleRelease {expected : ReleaseAllSnapshot}
    (ready : ReadyToCommit expected.id words) :
    Keeps task (fun _ => Words.Sound) (commitBleRelease expected) words := by
  refine .change (lasting_readyToCommit expected.id) ready fun state ready => ?_
  have kept {after : Words} (access : Access task state after) : Access task state after ∧
      ∀ later, Others task after later → later.Sound :=
    ⟨access, fun later others => others.sound (access.sound ready.sound)⟩
  dsimp only
  split
  · exact kept (Calm.refl state).access
  · rename_i matched
    simp only [Bool.not_eq_false, Bool.and_eq_true, beq_iff_eq] at matched
    obtain ⟨⟨same, opened⟩, -⟩ := matched
    split
    · have move : Move state { state with
          releaseTicket := state.releaseTicket.fail expected.id false } :=
        .releasing (Move.fail_step rfl rfl) rfl
      exact kept move.calm.access
    · refine kept ⟨List.suffix_rfl, .quiet (.of_same rfl rfl rfl), .of_same rfl, ?_⟩
      refine .ended rfl (Move.pending_of_open opened) rfl ⟨fun none => ?_, fun interface => ?_,
        fun _ => ⟨opened, fun interface => ⟨ready.complete (Move.matches_ble same).2.1 opened
          interface, ?_⟩⟩⟩
      · cases none
      · cases interface <;> exact id
      · cases interface <;> rfl

theorem keeps_commitBleReleaseAll {expected : ReleaseAllSnapshot} (sound : words.Sound) :
    Keeps task (fun _ => Words.Sound) (commitBleReleaseAll expected) words := by
  refine Program.Safe.readThen fun state others => ⟨(Calm.refl state).access, ?_⟩
  have sound := others.sound sound
  refine Keeps.ite (fun checked => keeps_commitBleRelease ?_) fun _ => .pure lasting_sound sound
  simp only [Bool.and_eq_true, List.all_cons, List.all_nil, Bool.and_true] at checked
  obtain ⟨⟨opens, ⟨-, keyboard⟩, -, mouse⟩, -⟩ := checked
  have opened := (Move.opens_ble opens).2
  simp only [ReleaseAllTicket.opensBle, Bool.and_eq_true, beq_iff_eq] at opens
  obtain ⟨-, named, used⟩ := Move.matches_ble opens.1.1
  refine ⟨sound, named ▸ sound.release.drawn (named.symm ▸ used), fun _ => ?_, fun _ _ interface => ?_⟩
  · rw [opened]
    exact ReleaseAllTransactionState.noConfusion
  · cases interface
    · exact keyboard
    · exact mouse

/-! ### Numbers -/

theorem calm_beside {before after : Words}
    (same : { after.books with
      sequenceGeneration := before.sequenceGeneration
      nextSequenceGeneration := before.nextSequenceGeneration
      activation := before.bleRoute.profileActivationEpoch
      nextProfileActivationEpoch := before.nextProfileActivationEpoch } = before.books) :
    Calm before after := by
  have record : after.record = before.record := congrArg Books.record same
  exact ⟨record ▸ List.suffix_rfl, .of_same (congrArg Books.tickets same)
    (congrArg Books.nextPublicTicketId same) record, .of_same (congrArg Books.slots same),
    .of_same (congrArg Books.nextReleaseId same) (congrArg Books.releaseTicket same)⟩

theorem requestRouteBle_calm (task : Route.Task) (activation : BleRouteActivation) :
    (requestRouteBle task activation).Each Calm := by
  refine requestRouteBle_each (fun _ _ => Move.calm) (.readModifyWrite fun words => ?_)
    (fun _ _ _ => ?_) task activation
  · split
    · exact .refl words
    · exact calm_beside rfl
  · exact .bind (.write fun _ => calm_beside rfl) fun _ =>
      .bind (.write fun _ => calm_beside rfl) fun _ => .write fun _ => calm_beside rfl

theorem beginSequence_calm : beginSequence.Each Calm := by
  refine beginSequence_each (fun _ _ => Move.calm) (.readModifyWrite fun words => ?_)
    fun _ => .readModifyWrite fun words => ?_
  · split
    · exact .refl words
    · exact calm_beside rfl
  · split
    · exact calm_beside rfl
    · exact .refl words

end HidBot.Runtime
