import HidBot.Sequence.Callers

/-!
# One run of a sequence

One task runs a generation that a start has published, while any number of tasks
abort it or retire its owner. The status word only moves forward, and whoever ends
the sequence also owns its cleanup.
-/

namespace HidBot.Sequence

open Interleaving

/-! ### Forward moves -/

/-- The moves of the status word. An abort that comes before the run's exchange
leaves out the running state. -/
structure Advance (before after : UInt32) : Prop where
  executed : decodeExecuted before ≤ decodeExecuted after
  state : decodeState before = some .accepted ∧
      (decodeState after = some .running ∨ decodeState after = some .aborted) ∨
    decodeState before = some .running ∧
      (decodeState after = some .running ∨ isTerminal after = true)

def Moves (before after : UInt32) : Prop := after = before ∨ Advance before after

theorem Moves.terminal {before after : UInt32} (moves : Moves before after)
    (terminal : isTerminal before = true) : after = before := by
  rcases moves with same | advance
  · exact same
  · rcases advance.state with ⟨accepted, -⟩ | ⟨running, -⟩
    · simp [isTerminal, accepted, State.terminal] at terminal
    · simp [isTerminal, running, State.terminal] at terminal

theorem Moves.executed {before after : UInt32} (moves : Moves before after) :
    decodeExecuted before ≤ decodeExecuted after := by
  rcases moves with rfl | advance
  · exact UInt8.le_refl _
  · exact advance.executed

/-- What an access of any task may do. -/
structure Forward (before after : Words) : Prop where
  coherent : before.Coherent → after.Coherent
  moves : before.Coherent → Moves before.statusWord after.statusWord
  calls : ∃ more, after.trace.calls = more ++ before.trace.calls

theorem Forward.of_same {before after : Words} (word : after.statusWord = before.statusWord)
    (stored : after.trace.stored = before.trace.stored)
    (disputed : before.trace.disputed = true → after.trace.disputed = true)
    (calls : ∃ more, after.trace.calls = more ++ before.trace.calls) : Forward before after where
  coherent coherent := ⟨by rw [word, stored, coherent.encoded], by
    rw [stored]
    exact coherent.proper.mono disputed⟩
  moves _ := .inl word
  calls := calls

/-- An exchange that moves the word forward. -/
theorem Forward.store {words : Words} {record : Record}
    (proper : words.Coherent → record.Proper (words.trace.disputed = true))
    (executed : words.Coherent → words.trace.stored.executed ≤ record.executed)
    (state : words.Coherent →
      words.trace.stored.state = .accepted ∧ (record.state = .running ∨ record.state = .aborted) ∨
        words.trace.stored.state = .running ∧
          (record.state = .running ∨ record.state.terminal = true)) :
    Forward words (words.storeStatus record) where
  coherent coherent := .store (proper coherent)
  moves coherent := by
    have after : (words.storeStatus record).Coherent := .store (proper coherent)
    refine .inr ⟨?_, ?_⟩
    · rw [coherent.decodes.executed, after.decodes.executed]
      exact executed coherent
    · rw [coherent.state, after.state, after.isTerminal_iff]
      simpa only [Option.some.injEq, Words.storeStatus] using state coherent
  calls := ⟨[], rfl⟩

/-- What the task that runs the sequence may rely on. -/
structure Outside (before after : Words) : Prop where
  coherent : before.Coherent → after.Coherent
  settled : before.Coherent → isTerminal before.statusWord = true →
    after.statusWord = before.statusWord
  running : before.Coherent → decodeState after.statusWord = some .running →
    after.statusWord = before.statusWord ∧ after.trace.stored = before.trace.stored
  calls : ∃ more, after.trace.calls = more ++ before.trace.calls
  reports : (∀ call ∈ before.trace.calls, call.isReport = false) →
    ∀ call ∈ after.trace.calls, call.isReport = false
  disputed : before.trace.disputed = true → after.trace.disputed = true
  plan : after.plan = before.plan

theorem Outside.refl (words : Words) : Outside words words :=
  ⟨id, fun _ _ => rfl, fun _ _ => ⟨rfl, rfl⟩, ⟨[], rfl⟩, id, id, rfl⟩

theorem Outside.trans {first second third : Words} (one : Outside first second)
    (two : Outside second third) : Outside first third where
  coherent := two.coherent ∘ one.coherent
  settled coherent terminal := by
    have same := one.settled coherent terminal
    exact (two.settled (one.coherent coherent) (same ▸ terminal)).trans same
  running coherent running := by
    obtain ⟨word, stored⟩ := two.running (one.coherent coherent) running
    obtain ⟨word', stored'⟩ := one.running coherent (word ▸ running)
    exact ⟨word.trans word', stored.trans stored'⟩
  calls := by
    obtain ⟨more, calls⟩ := one.calls
    obtain ⟨more', calls'⟩ := two.calls
    exact ⟨more' ++ more, by rw [calls', calls, List.append_assoc]⟩
  reports := two.reports ∘ one.reports
  disputed := two.disputed ∘ one.disputed
  plan := two.plan.trans one.plan

/-- What an access of a caller is to everyone. -/
def Interference (before after : Words) : Prop := Outside before after ∧ Forward before after

theorem Interference.of_same {before after : Words} (word : after.statusWord = before.statusWord)
    (trace : after.trace = before.trace) (plan : after.plan = before.plan) :
    Interference before after := by
  have forward : Forward before after :=
    .of_same word (by rw [trace]) (by rw [trace]; exact id) ⟨[], by rw [trace]; rfl⟩
  exact ⟨⟨forward.coherent, fun _ _ => word, fun _ _ => ⟨word, by rw [trace]⟩, forward.calls,
    by rw [trace]; exact id, by rw [trace]; exact id, plan⟩, forward⟩

/-! ### The callers -/

theorem Words.Coherent.stored_open {words : Words} (coherent : words.Coherent)
    (stillOpen : isOpen words.statusWord = true) :
    words.trace.stored.state = .accepted ∨ words.trace.stored.state = .running := by
  have either := decide_eq_true_iff.mp stillOpen
  simpa only [coherent.state, Option.some.injEq] using either

theorem Interference.abort {words : Words} (stillOpen : isOpen words.statusWord = true)
    (releaseOwned : Bool) :
    Interference words
      (words.storeStatus (abortedRecord (decodeExecuted words.statusWord) releaseOwned)) := by
  have forward : Forward words
      (words.storeStatus (abortedRecord (decodeExecuted words.statusWord) releaseOwned)) := by
    refine .store (·.aborted releaseOwned stillOpen) (fun coherent => ?_) fun coherent => ?_
    · rw [← coherent.decodes.executed]
      exact UInt8.le_refl _
    · exact (coherent.stored_open stillOpen).imp (⟨·, .inr rfl⟩) (⟨·, .inr rfl⟩)
  refine ⟨⟨forward.coherent, fun coherent terminal => ?_, fun coherent running => ?_,
    ⟨[], rfl⟩, id, id, rfl⟩, forward⟩
  · rw [coherent.isTerminal_iff] at terminal
    rcases coherent.stored_open stillOpen with accepted | running
    · simp [accepted, State.terminal] at terminal
    · simp [running, State.terminal] at terminal
  · rw [(forward.coherent coherent).state] at running
    cases running

theorem Interference.revoked (words : Words) :
    Interference words (words.called .revokeSequence) := by
  have forward : Forward words (words.called .revokeSequence) :=
    .of_same rfl rfl id ⟨[.revokeSequence], rfl⟩
  refine ⟨⟨forward.coherent, fun _ _ => rfl, fun _ _ => ⟨rfl, rfl⟩, forward.calls, ?_, id, rfl⟩,
    forward⟩
  intro reports call member
  rcases List.mem_cons.mp member with rfl | member
  · rfl
  · exact reports call member

theorem interference_rules (releaseOwned : Bool) : CallerRules Interference releaseOwned where
  quiet _ _ quiet := .of_same quiet.word quiet.trace quiet.plan
  revoked := .revoked
  abort _ stillOpen := .abort stillOpen releaseOwned

/-! ### The run -/

/-- What the run knows when this many operations have been executed. -/
structure Executing (executed : UInt8) (words : Words) : Prop where
  coherent : words.Coherent
  running : decodeState words.statusWord = some .running → words.trace.stored.executed ≤ executed

theorem Aside.forward {before after : Words} (aside : Aside before after) :
    Forward before after := by
  cases aside with
  | same => exact .of_same rfl rfl id ⟨[], rfl⟩
  | called call => exact .of_same rfl rfl id ⟨[call], rfl⟩
  | disputed here => exact .of_same rfl rfl (by simp +contextual) ⟨[], rfl⟩

theorem runRules : Rules Outside Forward Executing where
  refl := .refl
  disputed _ _ outside := outside.disputed
  stable executed before after executing outside := by
    refine ⟨outside.coherent executing.coherent, fun running => ?_⟩
    obtain ⟨word, stored⟩ := outside.running executing.coherent running
    rw [stored]
    exact executing.running (word ▸ running)
  aside executed before after executing aside := by
    refine ⟨aside.forward, aside.forward.coherent executing.coherent, fun running => ?_⟩
    cases aside <;> exact executing.running running
  exchange executed words record executing running reached next proper := by
    have before : words.trace.stored.state = .running := by
      rw [executing.coherent.state, Option.some.injEq] at running
      exact running
    refine ⟨.store (fun _ => proper) (fun _ => ?_) (fun _ => .inr ⟨before, next⟩), .store proper,
      fun _ => UInt8.le_refl _⟩
    exact UInt8.le_trans (executing.running running) reached
  mono executed later words executing reached :=
    ⟨executing.coherent, fun running => UInt8.le_trans (executing.running running) reached⟩

/-- No report has been submitted. -/
def Silent (words : Words) : Prop := ∀ call ∈ words.trace.calls, call.isReport = false

/-- The safety release was requested before the end of the sequence. -/
def ReleasedFirst (calls : List BackendCall) : Prop :=
  ∃ later authority earlier,
    calls = later ++ .endSequence authority :: earlier ∧ .requestSafetyRelease ∈ earlier

theorem ReleasedFirst.append {calls : List BackendCall} (released : ReleasedFirst calls)
    (more : List BackendCall) : ReleasedFirst (more ++ calls) := by
  obtain ⟨later, authority, earlier, rfl, member⟩ := released
  exact ⟨more ++ later, authority, earlier, by simp, member⟩

/-- A sequence without a report needs no cleanup, a completed one neither, and an
abort for a release owns it; else the calls show that the run has `released`. -/
structure CleanedUp (released : List BackendCall → Prop) (words : Words) : Prop where
  coherent : words.Coherent
  owner : Silent words ∨ decodeState words.statusWord = some .completed ∨
    decodeReleaseOwned words.statusWord = true ∨ released words.trace.calls

theorem Words.Coherent.terminal_of_owned {words : Words} (coherent : words.Coherent)
    (owned : decodeReleaseOwned words.statusWord = true) : isTerminal words.statusWord = true := by
  rw [coherent.decodes.releaseOwned] at owned
  rw [coherent.isTerminal_iff, coherent.proper.owned owned]
  rfl

theorem terminal_of_completed {word : UInt32} (completed : decodeState word = some .completed) :
    isTerminal word = true := by
  simp [isTerminal, completed, State.terminal]

theorem CleanedUp.stable {released : List BackendCall → Prop}
    (append : ∀ calls more, released calls → released (more ++ calls)) {before after : Words}
    (cleaned : CleanedUp released before) (outside : Outside before after) :
    CleanedUp released after := by
  refine ⟨outside.coherent cleaned.coherent, ?_⟩
  rcases cleaned.owner with silent | completed | owned | done
  · exact .inl (outside.reports silent)
  · have same := outside.settled cleaned.coherent (terminal_of_completed completed)
    exact .inr (.inl (same ▸ completed))
  · have same := outside.settled cleaned.coherent (cleaned.coherent.terminal_of_owned owned)
    exact .inr (.inr (.inl (same ▸ owned)))
  · obtain ⟨more, calls⟩ := outside.calls
    exact .inr (.inr (.inr (calls ▸ append _ more done)))

/-- The safety release has been requested. -/
abbrev Requested (calls : List BackendCall) : Prop := .requestSafetyRelease ∈ calls

theorem CleanedUp.requested_stable {before after : Words} (cleaned : CleanedUp Requested before)
    (outside : Outside before after) : CleanedUp Requested after :=
  cleaned.stable (fun _ more done => List.mem_append_right more done) outside

theorem CleanedUp.ended_stable {before after : Words} (cleaned : CleanedUp ReleasedFirst before)
    (outside : Outside before after) : CleanedUp ReleasedFirst after :=
  cleaned.stable (fun _ more done => done.append more) outside

/-- A call of the backend that is no report. -/
theorem CleanedUp.called {released after : List BackendCall → Prop} {words : Words}
    (cleaned : CleanedUp released words) {call : BackendCall} (quiet : call.isReport = false)
    (onward : ∀ calls, released calls → after (call :: calls)) :
    CleanedUp after (words.called call) := by
  refine ⟨⟨cleaned.coherent.encoded, cleaned.coherent.proper⟩, ?_⟩
  rcases cleaned.owner with silent | completed | owned | done
  · refine .inl fun other member => ?_
    rcases List.mem_cons.mp member with rfl | member
    · exact quiet
    · exact silent other member
  · exact .inr (.inl completed)
  · exact .inr (.inr (.inl owned))
  · exact .inr (.inr (.inr (onward _ done)))

theorem Forward.called (words : Words) (call : BackendCall) : Forward words (words.called call) :=
  .of_same rfl rfl id ⟨[call], rfl⟩

theorem Forward.refl (words : Words) : Forward words words := .of_same rfl rfl id ⟨[], rfl⟩

theorem endRun_safe (generation : UInt32) {words : Words} (cleaned : CleanedUp Requested words) :
    (endRun generation).Safe Outside Forward (fun _ later => CleanedUp ReleasedFirst later)
      words := by
  refine .bind .refl (.read fun later outside => ⟨.refl later, fun last more => ?_⟩)
  have here := (cleaned.requested_stable outside).requested_stable more
  refine .bind .refl (.write fun later outside => ⟨.called later _, fun last more => ?_⟩)
  have ended : CleanedUp ReleasedFirst last :=
    ((here.requested_stable outside).called rfl fun calls done => ⟨[], _, calls, rfl, done⟩
      ).ended_stable more
  refine .write fun later outside => ⟨.of_same rfl rfl id ⟨[], rfl⟩, fun last more => ?_⟩
  have ended := ended.ended_stable outside
  refine CleanedUp.ended_stable ?_ more
  exact ⟨⟨ended.coherent.encoded, ended.coherent.proper⟩, ended.owner⟩

/-- The safety release and then the end of the sequence. -/
theorem releaseThenEnd_safe (generation : UInt32) {words : Words} (coherent : words.Coherent) :
    (callBackend .requestSafetyRelease >>= fun _ => endRun generation).Safe Outside Forward
      (fun _ later => CleanedUp ReleasedFirst later) words := by
  refine .bind .refl (.write fun later outside => ⟨.called later _, fun last more => ?_⟩)
  have here := outside.coherent coherent
  refine endRun_safe generation (CleanedUp.requested_stable ⟨?_, ?_⟩ more)
  · exact ⟨here.encoded, here.proper⟩
  · exact .inr (.inr (.inr (List.mem_cons_self ..)))

theorem cleanUp_safe (generation : UInt32) {words : Words} (coherent : words.Coherent) :
    (cleanUp generation).Safe Outside Forward (fun _ later => CleanedUp ReleasedFirst later)
      words := by
  refine .bind .refl (.read fun later outside => ⟨.refl later, fun last more => ?_⟩)
  have here := outside.coherent coherent
  split
  · exact releaseThenEnd_safe generation (more.coherent here)
  · rename_i unneeded
    refine endRun_safe generation (CleanedUp.requested_stable ⟨here, ?_⟩ more)
    simp only [not_and, Bool.not_eq_false] at unneeded
    by_cases completed : decodeState later.statusWord = some .completed
    · exact .inr (.inl completed)
    · exact .inr (.inr (.inl (unneeded completed)))

/-- The controller after a start has published this generation. -/
structure Prepared (generation : UInt32) (words : Words) : Prop where
  nonzero : generation ≠ 0
  reserved : words.reservedGeneration = generation
  published : words.statusGeneration = generation
  word : words.statusWord = acceptedRecord.encode
  parsed : ∃ code initial, parse code initial = some words.plan
  trace : words.trace = { stored := acceptedRecord }

/-- What a run finds. -/
structure Awaiting (words : Words) : Prop where
  coherent : words.Coherent
  silent : Silent words
  parsed : ∃ code initial, parse code initial = some words.plan

theorem Awaiting.stable {before after : Words} (awaiting : Awaiting before)
    (outside : Outside before after) : Awaiting after :=
  ⟨outside.coherent awaiting.coherent, outside.reports awaiting.silent,
    outside.plan ▸ awaiting.parsed⟩

theorem run_safe (generation : UInt32) {words : Words} (awaiting : Awaiting words) :
    (run generation).Safe Outside Forward (fun _ later => CleanedUp ReleasedFirst later)
      words := by
  refine .bind .refl (.read fun later outside => ⟨.refl later, fun last more => ?_⟩)
  have awaiting := (awaiting.stable outside).stable more
  have silent : CleanedUp Requested last := ⟨awaiting.coherent, .inl awaiting.silent⟩
  refine .ite (fun _ => endRun_safe generation silent) fun _ => ?_
  refine .bind .refl (.readModifyWrite fun later outside => ?_)
  have awaiting := awaiting.stable outside
  split
  · rename_i accepted
    have state : later.trace.stored.state = .accepted := by
      have decoded : decodeState later.statusWord = some .accepted := by
        rw [accepted]
        exact (acceptedRecord_proper False).decodes.state
      rw [awaiting.coherent.state, Option.some.injEq] at decoded
      exact decoded
    have proper := runningRecord_proper (later.trace.disputed = true)
      (show (0 : UInt8) < 64 by decide)
    refine ⟨.store (fun _ => proper) (fun _ => ?_) (fun _ => .inl ⟨state, .inl rfl⟩),
      fun last more => ?_⟩
    · rw [awaiting.coherent.proper.accepted state]
      exact UInt8.le_refl _
    have executing : Executing 0 last :=
      runRules.stable 0 _ _ ⟨.store proper, fun _ => UInt8.le_refl _⟩ more
    have parsed : ∃ code initial, parse code initial = some last.plan :=
      more.plan ▸ awaiting.parsed
    refine .ite (fun failed => absurd failed (by decide)) fun _ => ?_
    refine .bind .refl (.read fun later outside => ⟨.refl later, fun last more => ?_⟩)
    have executing := runRules.stable 0 _ _ (runRules.stable 0 _ _ executing outside) more
    obtain ⟨code, initial, parsed⟩ := parsed
    rw [← outside.plan] at parsed
    obtain ⟨some, room⟩ := parse_length parsed
    have room : 0 + later.plan.operations.length ≤ 64 := by
      rw [Nat.zero_add]
      exact room
    refine .bind .refl ((runRules.runOperations_safe generation later.plan.operations room some _
      executing).mono fun verdict last reached => ?_)
    refine .bind .refl ((runRules.settle_safe generation reached).mono fun _ last kept => ?_)
    exact cleanUp_safe generation kept.coherent
  · refine ⟨.refl later, fun last more => ?_⟩
    have awaiting := awaiting.stable more
    dsimp only
    refine .ite (fun _ => ?_) fun stopped => absurd rfl stopped
    refine .bind .refl (.read fun later outside => ⟨.refl later, fun last more => ?_⟩)
    have awaiting := (awaiting.stable outside).stable more
    refine .ite (fun _ => releaseThenEnd_safe generation awaiting.coherent) fun _ => ?_
    exact endRun_safe generation ⟨awaiting.coherent, .inl awaiting.silent⟩

/-! ### Runs -/

/-- One run of this generation, and any number of calls that abort it or retire its
owner. -/
def oneRun (generation : UInt32) (config : Runs) : Label Task Invocation → Prop
  | .call .sequence invocation =>
      invocation.1 = .run generation ∧ ∀ entry ∈ config.history, entry.1 ≠ .sequence
  | .call (.caller _) invocation =>
      invocation.1 = .abort ∨ invocation.1 = .abortForRelease ∨
        ∃ owner, invocation.1 = .retireOwner owner
  | .advance _ => True

/-- The release that owns the cleanup has returned true, or can return nothing else. -/
def ReleaseClaims (config : Runs) : Prop :=
  Honoured (fun _ invocation reply => invocation.1 = .abortForRelease ∧ reply = some (.safe true))
    config

/-- One immutable terminal record and one cleanup owner: in every order of accesses
the status word makes only these `moves`. -/
structure RecordKept (moves : UInt32 → UInt32 → Prop) (generation : UInt32) (start : Runs) :
    Prop where
  moves : ∀ config, Reaches program (oneRun generation) start config →
    ∀ label next, oneRun generation config label → config.step program label = some next →
      moves config.shared.statusWord next.shared.statusWord
  terminal : ∀ earlier later, Reaches program (oneRun generation) start earlier →
    Reaches program (oneRun generation) earlier later →
      isTerminal earlier.shared.statusWord = true →
        later.shared.statusWord = earlier.shared.statusWord
  executed : ∀ earlier later, Reaches program (oneRun generation) start earlier →
    Reaches program (oneRun generation) earlier later →
      decodeExecuted earlier.shared.statusWord ≤ decodeExecuted later.shared.statusWord
  unencoded : ∀ config, Reaches program (oneRun generation) start config →
    config.shared.trace.stored.Decodes config.shared.statusWord
  cleanup : ∀ config invocation reply, Reaches program (oneRun generation) start config →
    (.sequence, invocation, some reply) ∈ config.history →
      Silent config.shared ∨ decodeState config.shared.statusWord = some .completed ∨
        (decodeReleaseOwned config.shared.statusWord = true ∧ ReleaseClaims config) ∨
          ReleasedFirst config.shared.trace.calls

def contract : Contract Task Words Invocation (Option Reply) where
  rely task _ := match task with
    | .sequence => Outside
    | .caller _ => fun _ _ => True
  guar task _ := match task with
    | .sequence => Forward
    | .caller _ => Interference
  post task _ reply later := match task with
    | .sequence => ∀ answer ∈ reply, CleanedUp ReleasedFirst later
    | .caller _ => True
  refl task _ state := by
    cases task
    · exact .refl state
    · trivial
  trans task _ _ _ _ one two := by
    cases task
    · exact Outside.trans one two
    · trivial

theorem caller_kept (id : Nat) {invocation : Invocation} {words : Words}
    (each : invocation.1.call.Each Interference) :
    contract.Kept (.caller id) invocation (program (.caller id) invocation) words :=
  Program.Each.safe (fun _ _ (_ : True) _ => trivial) (fun _ _ _ step => ⟨step, trivial⟩)
    (each.withScript _) trivial

theorem sequence_kept (generation : UInt32) (script : List Answer) {words : Words}
    (awaiting : Awaiting words) :
    contract.Kept .sequence (.run generation, script)
      (program .sequence (.run generation, script)) words := by
  refine Scripted.Safe.withScript ?_ script
  refine .bind Outside.refl ((run_safe generation awaiting).mono fun _ later cleaned => ?_)
  exact .pure fun last more => cleaned.ended_stable more

theorem request_interference {generation : UInt32} {config : Runs} {id : Nat}
    {invocation : Invocation} (allowed : oneRun generation config (.call (.caller id) invocation)) :
    invocation.1.call.Each Interference := by
  obtain ⟨request, script⟩ := invocation
  rcases allowed with rfl | rfl | ⟨owner, rfl⟩
  · exact .bind (interference_rules false).abort_each fun _ => .pure _
  · exact .bind (interference_rules true).abortForRelease fun _ => .pure _
  · exact .bind ((interference_rules false).retireOwner owner) fun _ => .pure _

/-- Where one run stands. -/
structure RunInv (config : Runs) : Prop where
  coherent : config.shared.Coherent
  conforms : contract.Conforms config
  waiting : (∀ entry ∈ config.history, entry.1 ≠ .sequence) → config.running .sequence = none →
    Awaiting config.shared
  once : (∃ entry ∈ config.history, entry.1 = .sequence) → config.running .sequence = none
  ended : ∀ invocation reply, (.sequence, invocation, some reply) ∈ config.history →
    CleanedUp ReleasedFirst config.shared

theorem Prepared.awaiting {generation : UInt32} {words : Words}
    (prepared : Prepared generation words) : Awaiting words := by
  refine ⟨⟨?_, ?_⟩, ?_, prepared.parsed⟩
  · rw [prepared.word, prepared.trace]
  · rw [prepared.trace]
    exact acceptedRecord_proper _
  · simp [Silent, prepared.trace]

theorem runInv_initial {generation : UInt32} {words : Words}
    (prepared : Prepared generation words) : RunInv (Config.initial words) where
  coherent := prepared.awaiting.coherent
  conforms := Contract.conforms_initial words
  waiting _ _ := prepared.awaiting
  once := by simp [Config.initial]
  ended := by simp [Config.initial]

section Step

variable {generation : UInt32} {config next : Runs} {label : Label Task Invocation}

/-- A step keeps the contract and moves forward; only the run itself makes a step
that the run could not rely on. -/
theorem RunInv.access (inv : RunInv config) (allowed : oneRun generation config label)
    (stepped : config.step program label = some next) :
    contract.Conforms next ∧ Forward config.shared next.shared ∧
      (config.running .sequence = none → Outside config.shared next.shared) := by
  have started : ∀ task invocation, label = .call task invocation →
      config.running task = none →
        contract.Kept task invocation (program task invocation) config.shared := by
    rintro task invocation rfl idle
    cases task with
    | sequence =>
        obtain ⟨request, script⟩ := invocation
        obtain ⟨rfl, first⟩ := allowed
        exact sequence_kept generation script (inv.waiting first idle)
    | caller id => exact caller_kept id (request_interference allowed)
  have compatible : ∀ task invocation other invocation', task ≠ other →
      ∀ after, contract.guar task invocation config.shared after →
        contract.rely other invocation' config.shared after := by
    intro task invocation other invocation' different after guar
    cases other with
    | caller id => trivial
    | sequence =>
        cases task with
        | sequence => exact absurd rfl different
        | caller id => exact guar.1
  obtain ⟨conforms, same | ⟨task, invocation, call, running, guar⟩⟩ :=
    inv.conforms.step started (fun _ _ _ _ _ _ _ _ different _ _ => compatible _ _ _ _ different)
      stepped
  · rw [same]
    exact ⟨conforms, .refl _, fun _ => .refl _⟩
  · cases task with
    | sequence => exact ⟨conforms, guar, fun idle => by simp [idle] at running⟩
    | caller id => exact ⟨conforms, guar.2, fun _ => guar.1⟩

theorem RunInv.step (inv : RunInv config) (allowed : oneRun generation config label)
    (stepped : config.step program label = some next) : RunInv next := by
  obtain ⟨conforms, forward, outside⟩ := inv.access allowed stepped
  have coherent := forward.coherent inv.coherent
  rcases Config.step_cases stepped with
    ⟨task, invocation, rfl, idle, rfl⟩ | ⟨task, invocation, update, rest, rfl, running, rfl⟩ |
      ⟨task, invocation, reply, rfl, running, rfl⟩
  · refine ⟨coherent, conforms, fun first waiting => ?_, fun returned => ?_, inv.ended⟩
    · cases task with
      | sequence => simp at waiting
      | caller id => exact inv.waiting first (by simpa using waiting)
    · cases task with
      | sequence =>
          obtain ⟨entry, member, task⟩ := returned
          exact absurd task (allowed.2 entry member)
      | caller id => simpa using inv.once returned
  · -- The access of a caller is one that the run relies on.
    have idle : ∀ {id}, task = .caller id →
        Function.update config.running task (some (invocation, rest config.shared)) .sequence =
          config.running .sequence := by
      rintro id rfl
      simp
    refine ⟨coherent, conforms, fun first waiting => ?_, fun returned => ?_, ?_⟩
    · cases task with
      | sequence => simp at waiting
      | caller id =>
          have waiting : config.running .sequence = none := (idle rfl).symm.trans waiting
          exact (inv.waiting first waiting).stable (outside waiting)
    · cases task with
      | sequence => simp [inv.once returned] at running
      | caller id => exact (idle rfl).trans (inv.once returned)
    · intro invocation reply member
      exact (inv.ended _ _ member).ended_stable (outside (inv.once ⟨_, member, rfl⟩))
  · refine ⟨coherent, conforms, fun first waiting => ?_, fun returned => ?_, ?_⟩
    · have unfinished : ∀ entry ∈ config.history, entry.1 ≠ .sequence :=
        fun entry member => first entry (List.mem_cons_of_mem _ member)
      cases task with
      | sequence => exact absurd rfl (first _ (List.mem_cons_self ..))
      | caller id => exact inv.waiting unfinished (by simpa using waiting)
    · cases task with
      | sequence => simp
      | caller id =>
          obtain ⟨entry, member, same⟩ := returned
          rcases List.mem_cons.mp member with rfl | member
          · cases same
          · simpa using inv.once ⟨entry, member, same⟩
    · intro invocation' reply' member
      rcases List.mem_cons.mp member with same | member
      · cases same
        exact inv.conforms.returned running reply' rfl
      · exact inv.ended _ _ member

end Step

theorem Prepared.runInv {generation : UInt32} {words : Words} (prepared : Prepared generation words)
    {config : Runs} (reached : Reaches program (oneRun generation) (Config.initial words) config) :
    RunInv config :=
  reached.induct (runInv_initial prepared) fun _ _ _ inv allowed stepped => inv.step allowed stepped

/-- Only a release marks the word as owned, and then returns true. -/
theorem oneRun_pledged {generation : UInt32} (config : Runs) (task : Task) (invocation : Invocation)
    (allowed : oneRun generation config (.call task invocation)) :
    (program task invocation).After ClaimsRelease fun reply =>
      invocation.1 = .abortForRelease ∧ reply = some (.safe true) := by
  obtain ⟨request, script⟩ := invocation
  have unclaimed : ∀ {request : Request}, request.call.Each
      (fun before after => ¬ClaimsRelease before after) →
      (program task (request, script)).After ClaimsRelease fun reply =>
        request = .abortForRelease ∧ reply = some (.safe true) :=
    fun each => .of_each (each.withScript script)
  cases task with
  | sequence =>
      obtain ⟨rfl, -⟩ := allowed
      exact unclaimed (.bind (run_unclaimed generation) fun _ => .pure _)
  | caller id =>
      rcases allowed with rfl | rfl | ⟨owner, rfl⟩
      · exact unclaimed (.bind abort_unclaimed.abort_each fun _ => .pure _)
      · have after : Request.abortForRelease.call.After ClaimsRelease (· = .safe true) := by
          refine .bind abortForRelease_after ?_ fun safe => .of_each (.pure _)
          rintro _ rfl
          exact .pure rfl
        refine (after.withScript script).mono fun reply outcome => ?_
        obtain ⟨answer, rfl, rfl⟩ := outcome
        exact ⟨rfl, rfl⟩
      · exact unclaimed (.bind (abort_unclaimed.retireOwner owner) fun _ => .pure _)

theorem Prepared.releaseClaims {generation : UInt32} {words : Words}
    (prepared : Prepared generation words) {config : Runs}
    (reached : Reaches program (oneRun generation) (Config.initial words) config)
    (owned : decodeReleaseOwned config.shared.statusWord = true) : ReleaseClaims config := by
  have coherent := (prepared.runInv reached).coherent
  rw [coherent.decodes.releaseOwned] at owned
  refine reached.honoured (fun words => words.trace.stored.releaseOwned = true) ?_ ?_
    oneRun_pledged owned
  · exact fun _ => rfl
  · simp [Config.initial, prepared.trace, acceptedRecord]

/-- Every generation that a start has published keeps one terminal record and one
owner of its cleanup. -/
theorem Prepared.recordKept {generation : UInt32} {words : Words}
    (prepared : Prepared generation words) :
    RecordKept Moves generation (Config.initial words) := by
  have moves : ∀ config, Reaches program (oneRun generation) (Config.initial words) config →
      ∀ label next, oneRun generation config label → config.step program label = some next →
        Moves config.shared.statusWord next.shared.statusWord := by
    intro config reached label next allowed stepped
    have inv := prepared.runInv reached
    exact (inv.access allowed stepped).2.1.moves inv.coherent
  have onward : ∀ earlier later, Reaches program (oneRun generation) (Config.initial words)
      earlier → Reaches program (oneRun generation) earlier later →
        (isTerminal earlier.shared.statusWord = true →
          later.shared.statusWord = earlier.shared.statusWord) ∧
        decodeExecuted earlier.shared.statusWord ≤ decodeExecuted later.shared.statusWord := by
    intro earlier later reached more
    induction more with
    | refl => exact ⟨fun _ => rfl, UInt8.le_refl _⟩
    | @step config next label between allowed stepped ih =>
        have move := moves config (reached.trans between) label next allowed stepped
        refine ⟨fun terminal => ?_, UInt8.le_trans ih.2 move.executed⟩
        have same := ih.1 terminal
        exact (move.terminal (same ▸ terminal)).trans same
  refine ⟨moves, fun earlier later reached more => (onward earlier later reached more).1,
    fun earlier later reached more => (onward earlier later reached more).2,
    fun config reached => (prepared.runInv reached).coherent.decodes, ?_⟩
  intro config invocation reply reached returned
  have claims := prepared.releaseClaims reached
  rcases ((prepared.runInv reached).ended _ _ returned).owner with
    silent | completed | owned | released
  · exact .inl silent
  · exact .inr (.inl completed)
  · exact .inr (.inr (.inl ⟨owned, claims owned⟩))
  · exact .inr (.inr (.inr released))

/-! ### A generation that waits for its run -/

/-- Generation 1 has been published with a plan of one wait. -/
def waiting : Words where
  nextGeneration := 2
  reservedGeneration := 1
  statusGeneration := 1
  statusOwnerLow := 7
  statusWord := acceptedRecord.encode
  plan := (parse "w1".toList {}).getD {}
  activeLocalOwnerId := 7

theorem waiting_prepared : Prepared 1 waiting :=
  ⟨by decide, rfl, rfl, rfl, ⟨"w1".toList, {}, by decide +kernel⟩, rfl⟩

theorem recordKept_waiting : RecordKept Moves 1 (Config.initial waiting) :=
  waiting_prepared.recordKept

/-- The moves of a word that no abort finds before its run. -/
structure RunningFirst (before after : UInt32) : Prop where
  executed : decodeExecuted before ≤ decodeExecuted after
  state : decodeState before = some .accepted ∧ decodeState after = some .running ∨
    decodeState before = some .running ∧
      (decodeState after = some .running ∨ isTerminal after = true)

/-- An abort up to the load of the word it ends. -/
def abortBeforeRun : List (Label Task Invocation) :=
  .call (.caller 0) (.abort, [.exchangeFails false]) :: .replicate 7 (.advance (.caller 0))

/-- **An accepted sequence is aborted without having run.** -/
theorem accepted_aborted : ¬∀ generation words, Prepared generation words →
    RecordKept (fun before after => after = before ∨ RunningFirst before after) generation
      (Config.initial words) := by
  intro kept
  have final : (replay program abortBeforeRun (Config.initial waiting)).bind (fun config =>
      (config.step program (.advance (.caller 0))).map fun next =>
        (decodeState config.shared.statusWord, decodeState next.shared.statusWord)) =
      some (some .accepted, some .aborted) := by decide +kernel
  obtain ⟨config, replayed, final⟩ := Option.bind_eq_some_iff.mp final
  obtain ⟨next, stepped, observed⟩ := Option.map_eq_some_iff.mp final
  obtain ⟨before, after⟩ := Prod.mk.inj observed
  have reached : Reaches program (oneRun 1) (Config.initial waiting) config := by
    refine .of_replay ?_ replayed
    simp [abortBeforeRun, oneRun]
  rcases (kept 1 waiting waiting_prepared).moves config reached (.advance (.caller 0)) next trivial
    stepped with same | moved
  · rw [same, before] at after
    cases after
  · rcases moved.state with ⟨-, running⟩ | ⟨running, -⟩
    · cases after.symm.trans running
    · cases before.symm.trans running

end HidBot.Sequence
