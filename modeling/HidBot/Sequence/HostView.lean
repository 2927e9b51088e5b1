import HidBot.Host.SequenceStatus
import HidBot.Sequence.Callers

/-!
# Statuses that the host accepts

Any number of tasks start sequences, abort them, retire owners and read the status,
while one task runs what has been started. Unless a report was refused with an
authority that the next check still finds current, the host accepts every status.
-/

namespace HidBot.Sequence

open Interleaving Wire Host

/-! ### The serialised status -/

/-- `terminal_code_name`. -/
def terminalCodeName : Option TerminalCode → Option String
  | some .none => none
  | some .hidBusy => some "HID_BUSY"
  | some .hidNotReady => some "HID_NOT_READY"
  | some .hidSafetyPending => some "HID_SAFETY_PENDING"
  | some .sessionMismatch => some "SESSION_MISMATCH"
  | some .sequenceTimeout => some "SEQUENCE_TIMEOUT"
  | some .sequenceAborted => some "SEQUENCE_ABORTED"
  | none => some "SEQUENCE_ABORTED"

def sequenceState : Option State → ControlProtocol.SequenceState
  | some .accepted => .accepted
  | some .running => .running
  | some .completed => .completed
  | some .aborted => .aborted
  | some .failed | none => .failed

def sequenceStatus (status : Status) : ControlProtocol.SequenceStatus where
  sequenceId := status.sequenceId
  state := sequenceState status.state
  started := status.started
  executed := status.executed
  failedToken := status.failedToken
  code := terminalCodeName status.code

/-- The status of a sequence whose word stands for this record. -/
def Record.status (record : Record) (sequenceId : Int) : Status where
  sequenceId
  state := some record.state
  started := record.state ≠ .accepted
  executed := record.executed
  failedToken :=
    if (record.state = .failed ∨ record.state = .aborted) ∧ record.failedTokenPresent = true then
      some record.failedToken else none
  code := if record.state = .failed ∨ record.state = .aborted then some record.code else some .none

/-- The host accepts the status, whose state, count, token and code then belong
together. -/
structure HostAccepts (status : Status) : Prop where
  accepted : ∃ seen, validateSequenceStatus (makeSequenceStatus (sequenceStatus status)) = .ok seen
  failed : status.state = some .failed →
    status.code ∈ [some .hidBusy, some .hidNotReady, some .hidSafetyPending,
      some .sequenceTimeout] ∧ status.failedToken = some status.executed
  aborted : status.state = some .aborted →
    status.code ∈ [some .sessionMismatch, some .sequenceAborted]
  completed : status.state = some .completed → status.executed ≠ 0

/-- The names of the codes that a failed or an aborted sequence may carry. -/
theorem terminalCodeName_failure {code : TerminalCode}
    (failure : code ∈ [.hidBusy, .hidNotReady, .hidSafetyPending, .sequenceTimeout]) :
    ∃ name, terminalCodeName (some code) = some name ∧ name ∈ failureCodes := by
  cases code <;> first | exact ⟨_, rfl, by decide⟩ | simp at failure

theorem terminalCodeName_abort {code : TerminalCode}
    (abort : code ∈ [.sessionMismatch, .sequenceAborted]) :
    ∃ name, terminalCodeName (some code) = some name ∧ name ∈ abortCodes := by
  cases code <;> first | exact ⟨_, rfl, by decide⟩ | simp at abort

theorem Record.Proper.hostAccepts {record : Record} (proper : record.Proper False)
    {sequenceId : Int} (valid : 0 ≤ sequenceId ∧ sequenceId ≤ 2147483647) :
    HostAccepts (record.status sequenceId) := by
  have failed : record.state = .failed →
      record.code ∈ [.hidBusy, .hidNotReady, .hidSafetyPending, .sequenceTimeout] :=
    fun failed => (proper.failed failed).resolve_right fun disputed => disputed.2
  refine ⟨⟨_, SequenceStatus.Paired.validated (sequenceStatusFields_make valid proper.executed
    ?_ ?_) ?_⟩, fun state => ?_, fun state => ?_, fun state => ?_⟩
  · intro token present
    simp only [sequenceStatus, Record.status, Option.mem_def, Option.ite_none_right_eq_some,
      Option.some.injEq] at present
    exact present.2 ▸ proper.failedToken
  · intro name named
    cases state : record.state with
    | failed =>
        obtain ⟨known, same, member⟩ := terminalCodeName_failure (failed state)
        simp only [sequenceStatus, Record.status, state, true_or, ↓reduceIte, same,
          Option.mem_def, Option.some.injEq] at named
        exact named ▸ List.mem_append_left _ member
    | aborted =>
        obtain ⟨known, same, member⟩ := terminalCodeName_abort (proper.aborted state)
        simp only [sequenceStatus, Record.status, state, or_true, ↓reduceIte, same,
          Option.mem_def, Option.some.injEq] at named
        exact named ▸ List.mem_append_right _ member
    | _ => simp [sequenceStatus, Record.status, state, terminalCodeName] at named
  · cases state : record.state with
    | accepted =>
        constructor <;> simp [sequenceStatus, Record.status, sequenceState, sequenceStateName,
          terminalCodeName, state, proper.accepted state]
    | running =>
        constructor <;> simp [sequenceStatus, Record.status, sequenceState, sequenceStateName,
          terminalCodeName, state]
    | completed =>
        have nonzero : record.executed.toNat ≠ 0 := fun zero =>
          proper.completed state (UInt8.toNat_inj.mp zero)
        constructor <;> simp [sequenceStatus, Record.status, sequenceState, sequenceStateName,
          terminalCodeName, state, nonzero]
    | failed =>
        obtain ⟨present, token⟩ := proper.stopped (.inl state)
        obtain ⟨known, same, member⟩ := terminalCodeName_failure (failed state)
        constructor <;> simp [sequenceStatus, Record.status, sequenceState, sequenceStateName,
          state, present, token, same, member]
    | aborted =>
        obtain ⟨present, token⟩ := proper.stopped (.inr state)
        obtain ⟨known, same, member⟩ := terminalCodeName_abort (proper.aborted state)
        constructor <;> simp [sequenceStatus, Record.status, sequenceState, sequenceStateName,
          state, present, token, same, member]
  · have state : record.state = .failed := by simpa [Record.status] using state
    obtain ⟨present, token⟩ := proper.stopped (.inl state)
    simpa [Record.status, state, present, token] using failed state
  · have state : record.state = .aborted := by simpa [Record.status] using state
    simpa [Record.status, state] using proper.aborted state
  · exact proper.completed (by simpa [Record.status] using state)

/-! ### Accesses of any task -/

/-- A parsed plan is in place. -/
def Words.Planned (words : Words) : Prop := ∃ code initial, parse code initial = some words.plan

/-- What can be run has a plan. -/
def Words.Ready (words : Words) : Prop := words.runnableGeneration ≠ 0 → words.Planned

/-- What every access keeps. -/
structure Onward (before after : Words) : Prop where
  coherent : before.Coherent → after.Coherent
  disputed : before.trace.disputed = true → after.trace.disputed = true
  planned : before.Planned → after.Planned
  ready : before.Ready → after.Ready

namespace Onward

theorem refl (words : Words) : Onward words words := ⟨id, id, id, id⟩

theorem trans {first second third : Words} (one : Onward first second) (two : Onward second third) :
    Onward first third :=
  ⟨two.coherent ∘ one.coherent, two.disputed ∘ one.disputed, two.planned ∘ one.planned,
    two.ready ∘ one.ready⟩

theorem of_quiet {before after : Words} (quiet : Quiet before after) : Onward before after where
  coherent coherent :=
    ⟨by rw [quiet.word, quiet.trace, coherent.encoded], by rw [quiet.trace]; exact coherent.proper⟩
  disputed := by rw [quiet.trace]; exact id
  planned := by rw [Words.Planned, Words.Planned, quiet.plan]; exact id
  ready := by
    rw [Words.Ready, Words.Ready, Words.Planned, Words.Planned, quiet.runnable, quiet.plan]
    exact id

theorem store {words : Words} {record : Record}
    (proper : words.Coherent → record.Proper (words.trace.disputed = true)) :
    Onward words (words.storeStatus record) :=
  ⟨fun coherent => .store (proper coherent), id, id, id⟩

theorem of_aside {before after : Words} (aside : Aside before after) : Onward before after := by
  refine ⟨fun coherent => ?_, aside.disputed_mono, ?_, ?_⟩
  · have mono := aside.disputed_mono
    cases aside <;> exact ⟨coherent.encoded, coherent.proper.mono mono⟩
  · cases aside <;> exact id
  · cases aside <;> exact id

theorem callers (releaseOwned : Bool) : CallerRules Onward releaseOwned where
  quiet _ _ := of_quiet
  revoked _ := of_aside (.called _)
  abort _ stillOpen := store (·.aborted releaseOwned stillOpen)

theorem each_of_aside {α : Type} {call : Call α} (each : call.Each Aside) : call.Each Onward :=
  fun script => (each script).mono fun _ _ => of_aside

end Onward

/-! ### Calls of any task -/

section Calls

variable {words : Words}

theorem runRules_onward : Rules Onward Onward fun _ words => words.Coherent where
  refl := .refl
  disputed _ _ onward := onward.disputed
  stable _ _ _ coherent onward := onward.coherent coherent
  aside _ _ _ coherent aside := ⟨.of_aside aside, (Onward.of_aside aside).coherent coherent⟩
  exchange _ _ _ _ _ _ _ proper := ⟨.store fun _ => proper, .store proper⟩
  mono _ _ _ coherent _ := coherent

theorem endRun_onward (generation : UInt32) : (endRun generation).Each Onward :=
  .bind ((Onward.callers false).read _) fun _ =>
    .bind (Onward.each_of_aside (callBackend_aside _)) fun _ =>
      (Onward.callers false).write fun _ => ⟨rfl, rfl, rfl, rfl⟩

theorem releaseThenEnd_onward (generation : UInt32) :
    (callBackend .requestSafetyRelease >>= fun _ => endRun generation).Each Onward :=
  .bind (Onward.each_of_aside (callBackend_aside _)) fun _ => endRun_onward generation

/-- The end of a run in which every access is admitted. -/
theorem onward_safe {α : Type} {call : Call α} (each : call.Each Onward) :
    call.Safe Onward Onward (fun _ _ => True) words :=
  each.safe (fun _ _ (_ : True) _ => trivial) (fun _ _ _ onward => ⟨onward, trivial⟩) trivial

theorem run_onward (generation : UInt32) (planned : words.Planned) :
    (run generation).Safe Onward Onward (fun _ _ => True) words := by
  refine .bind .refl (.read fun later onward => ⟨.refl later, fun last more => ?_⟩)
  have onward := onward.trans more
  refine .ite (fun _ => onward_safe (endRun_onward generation)) fun _ => ?_
  refine .bind .refl (.readModifyWrite fun later more => ?_)
  have onward := onward.trans more
  split
  · have proper := runningRecord_proper (later.trace.disputed = true)
      (show (0 : UInt8) < 64 by decide)
    refine ⟨.store fun _ => proper, fun last more => ?_⟩
    have planned := more.planned (onward.planned planned)
    have coherent := more.coherent (.store proper)
    refine .ite (fun failed => absurd failed (by decide)) fun _ => ?_
    refine .bind .refl (.read fun later onward => ⟨.refl later, fun last more => ?_⟩)
    obtain ⟨code, initial, parsed⟩ := onward.planned planned
    obtain ⟨some, room⟩ := parse_length parsed
    have room : 0 + later.plan.operations.length ≤ 64 := by
      rw [Nat.zero_add]
      exact room
    refine .bind .refl ((runRules_onward.runOperations_safe generation later.plan.operations room
      some _ (more.coherent (onward.coherent coherent))).mono fun verdict last reached => ?_)
    refine .bind .refl ((runRules_onward.settle_safe generation reached).mono fun _ last _ => ?_)
    refine onward_safe (.bind ((Onward.callers false).read _) fun _ => .ite ?_ ?_)
    · exact releaseThenEnd_onward generation
    · exact endRun_onward generation
  · refine ⟨.refl later, fun last more => ?_⟩
    dsimp only
    refine .ite (fun _ => onward_safe ?_) fun stopped => absurd rfl stopped
    refine .bind ((Onward.callers false).read _) fun _ => .ite ?_ ?_
    · exact releaseThenEnd_onward generation
    · exact endRun_onward generation

theorem taskTurn_onward (ready : words.Ready) :
    taskTurn.Safe Onward Onward (fun _ _ => True) words := by
  refine .bind .refl (.readModifyWrite fun later onward => ⟨?_, fun last more => ?_⟩)
  · exact ⟨fun before => ⟨before.encoded, before.proper⟩, id, id, fun _ none => absurd rfl none⟩
  · refine .ite (fun runnable => ?_) fun _ => .pure fun _ _ => trivial
    have planned : later.Planned := onward.ready ready runnable
    exact run_onward _ (more.planned planned)

/-- A status that is found stands for a record that was stored. -/
theorem status_safe (owner : UInt64) (sequenceId : Int) (coherent : words.Coherent) :
    (status owner sequenceId).Safe Onward Onward (fun found later =>
      ∀ status, found = some status → ∃ record : Record,
        record.Proper (later.trace.disputed = true) ∧ status = record.status sequenceId) words := by
  have nothing : ∀ {words : Words}, (pure none : Call (Option Status)).Safe Onward Onward
      (fun found later => ∀ status, found = some status → ∃ record : Record,
        record.Proper (later.trace.disputed = true) ∧ status = record.status sequenceId) words :=
    .pure fun _ _ _ same => nomatch same
  refine .bind .refl (.read fun later onward => ⟨.refl later, fun last more => ?_⟩)
  have onward := onward.trans more
  refine .bind .refl (.read fun later more => ⟨.refl later, fun last again => ?_⟩)
  have onward := (onward.trans more).trans again
  refine .bind .refl (.read fun later more => ⟨.refl later, fun last again => ?_⟩)
  have onward := (onward.trans more).trans again
  refine .ite (fun _ => nothing) fun _ => ?_
  refine .bind .refl (.read fun later more => ⟨.refl later, fun last again => ?_⟩)
  have onward := (onward.trans more).trans again
  refine .ite (fun _ => nothing) fun _ => ?_
  refine .bind .refl (.read fun later more => ⟨.refl later, fun last again => ?_⟩)
  have here := (onward.trans more).coherent coherent
  refine .bind .refl (.read fun final more => ⟨.refl final, fun last' more' => ?_⟩)
  refine .pure fun ended last'' status found => ?_
  have proper := here.proper.mono
    (last''.disputed ∘ more'.disputed ∘ more.disputed ∘ again.disputed)
  refine ⟨later.trace.stored, proper, ?_⟩
  split at found
  · cases found
    have decodes := here.decodes
    simp [Record.status, decodes.state, decodes.executed, decodes.failedTokenPresent,
      decodes.failedToken, decodes.code]
  · cases found

/-- After the plan has been written, the start publishes what can be run. -/
theorem publish_safe (generation : UInt32) (owner : UInt64) (sequenceId : Int)
    (planned : words.Planned) :
    (publishRecord generation owner sequenceId).Safe Onward Onward (fun _ _ => True) words := by
  have quiet : ∀ {update : Words → Words}, (∀ words, Quiet words (update words)) →
      (Scripted.write update : Call Unit).Each
        fun before after => before.Planned → Onward before after :=
    fun quiet => .ofProgram (.write fun words _ => .of_quiet (quiet words))
  have each : (publishRecord generation owner sequenceId).Each
      fun before after => before.Planned → Onward before after := by
    refine .bind (quiet fun _ => ⟨rfl, rfl, rfl, rfl⟩) fun _ => ?_
    refine .bind (quiet fun _ => ⟨rfl, rfl, rfl, rfl⟩) fun _ => ?_
    refine .bind (.ofProgram (.write fun words _ => .store fun _ => acceptedRecord_proper _))
      fun _ => ?_
    refine .bind (quiet fun _ => ⟨rfl, rfl, rfl, rfl⟩) fun _ => ?_
    refine .bind (quiet fun _ => ⟨rfl, rfl, rfl, rfl⟩) fun _ => ?_
    refine .bind (quiet fun _ => ⟨rfl, rfl, rfl, rfl⟩) fun _ => ?_
    refine .ofProgram (.write fun words planned => ⟨?_, id, id, fun _ _ => planned⟩)
    exact fun coherent => ⟨coherent.encoded, coherent.proper⟩
  have stable : ∀ before after : Words, before.Planned → Onward before after → after.Planned :=
    fun _ _ here onward => onward.planned here
  refine (each.safe stable ?_ planned).mono fun _ _ _ => trivial
  exact fun _ _ here step => ⟨step here, (step here).planned here⟩

theorem allocateGeneration_onward : allocateGeneration.Each Onward := by
  have callers := Onward.callers false
  refine .bind (callers.read _) fun _ => .iterate (fun _ => .ite (.pure _) ?_) _
  refine .bind (.ask _) fun _ => .ite (.bind (callers.read _) fun _ => .pure _) ?_
  refine .bind (.ofProgram (.readModifyWrite fun words => ?_)) fun _ => .pure _
  dsimp only
  split
  · exact .of_quiet ⟨rfl, rfl, rfl, rfl⟩
  · exact .refl words

theorem start_onward (owner : UInt64) (sequenceId : Int) (code : List Char) :
    (start owner sequenceId code).Safe Onward Onward (fun _ _ => True) words := by
  have callers := Onward.callers false
  have cleared : clearReservation.Each Onward := callers.write fun _ => ⟨rfl, rfl, rfl, rfl⟩
  have ended : ∀ authority, (callBackend (.endSequence authority)).Each Onward :=
    fun authority => Onward.each_of_aside (callBackend_aside _)
  refine .bind .refl ((onward_safe (callers.read _)).mono fun initialized _ _ => ?_)
  refine .ite (fun _ => onward_safe (.pure _)) fun _ => ?_
  refine .bind .refl ((onward_safe allocateGeneration_onward).mono fun allocated _ _ => ?_)
  cases allocated with
  | none => exact onward_safe (.pure _)
  | some generation =>
  have reserve : (Scripted.readModifyWrite fun words : Words =>
      if words.reservedGeneration = 0 then
        (true, { words with reservedGeneration := generation })
      else (false, words) : Call Bool).Each Onward := by
    refine .ofProgram (.readModifyWrite fun words => ?_)
    split
    · exact .of_quiet ⟨rfl, rfl, rfl, rfl⟩
    · exact .refl words
  refine .bind .refl ((onward_safe reserve).mono fun reserved _ _ => ?_)
  refine .ite (fun _ => onward_safe (.pure _)) fun _ => ?_
  refine .bind .refl ((onward_safe (.ask _)).mono fun answer _ _ => ?_)
  obtain ⟨admission, initial, authority⟩ := answer
  refine .bind .refl ((onward_safe (Onward.each_of_aside (callBackend_aside _))).mono
    fun _ _ _ => ?_)
  refine .ite (fun _ => onward_safe (.bind cleared fun _ => .pure _)) fun _ => ?_
  split
  · exact onward_safe (.bind (ended _) fun _ => .bind cleared fun _ => .pure _)
  rename_i plan parsed
  refine .ite (fun _ => onward_safe (.bind (ended _) fun _ => .bind cleared fun _ => .pure _))
    fun _ => ?_
  refine .bind .refl ((onward_safe (.ask _)).mono fun admissionUs _ _ => ?_)
  refine .bind .refl (.write fun later _ => ⟨?_, fun last more => ?_⟩)
  · exact ⟨fun coherent => ⟨coherent.encoded, coherent.proper⟩, id, fun _ => ⟨_, _, parsed⟩,
      fun _ _ => ⟨_, _, parsed⟩⟩
  have planned : last.Planned := more.planned ⟨_, _, parsed⟩
  refine .bind .refl (.read fun later onward => ⟨.refl later, fun last more => ?_⟩)
  have planned := more.planned (onward.planned planned)
  refine .bind .refl (.write fun later onward => ⟨.of_quiet ⟨rfl, rfl, rfl, rfl⟩,
    fun last more => ?_⟩)
  have planned := more.planned (show Words.Planned _ from onward.planned planned)
  refine .bind .refl ((publish_safe generation owner sequenceId planned).mono fun _ _ _ => ?_)
  exact onward_safe (.pure _)

end Calls

/-! ### Runs -/

/-- The sequence task takes its turns, and the others call with the sequence ids
that the parameters of a request admit. -/
def anyCalls (_ : Runs) : Label Task Invocation → Prop
  | .call .sequence invocation => invocation.1 = .taskTurn
  | .call (.caller _) (request, _) =>
      match request with
      | .status _ sequenceId => 0 ≤ sequenceId ∧ sequenceId ≤ 2147483647
      | .run _ | .taskTurn => False
      | _ => True
  | .advance _ => True

/-- No report is refused for a lost authority that the check after it, which sees no
cancellation, finds current. -/
def undisputed (config : Runs) (label : Label Task Invocation) : Prop :=
  anyCalls config label ∧
    ∀ next, config.step program label = some next → next.shared.trace.disputed = false

/-- The host accepts every status that is returned. -/
def StatusesAccepted (allowed : Runs → Label Task Invocation → Prop) : Prop :=
  ∀ config, Reaches program allowed (Config.initial {}) config →
    ∀ task invocation status, (task, invocation, some (.status (some status))) ∈ config.history →
      HostAccepts status

/-- What a status call that has returned has read. -/
def StatusRead (invocation : Invocation) (reply : Reply) (later : Words) : Prop :=
  ∀ status, reply = .status (some status) →
    ∃ owner sequenceId, invocation.1 = .status owner sequenceId ∧
      ∃ record : Record, record.Proper (later.trace.disputed = true) ∧
        status = record.status sequenceId

def statusContract : Contract Task Words Invocation (Option Reply) where
  rely _ _ := Onward
  guar _ _ := Onward
  post _ invocation reply later := ∀ answer ∈ reply, StatusRead invocation answer later
  refl _ _ := .refl
  trans _ _ _ _ _ := .trans

section Step

variable {config next : Runs} {label : Label Task Invocation}

/-- A call that reads no status keeps the contract if its accesses are admitted. -/
theorem kept_of_safe {α : Type} {task : Task} {request : Request} {script : List Answer}
    {words : Words} {call : Call α} {reply : α → Reply}
    (same : request.call = call >>= fun result => pure (reply result))
    (other : ∀ result found, reply result ≠ .status found)
    (safe : call.Safe Onward Onward (fun _ _ => True) words) :
    statusContract.Kept task (request, script) (program task (request, script)) words := by
  have whole : request.call.Safe Onward Onward
      (fun answer later => StatusRead (request, script) answer later) words := by
    rw [same]
    refine .bind .refl (safe.mono fun result _ _ => .pure fun _ _ status found => ?_)
    exact absurd found (other result _)
  exact whole.withScript script

theorem call_kept {task : Task} {invocation : Invocation}
    (allowed : anyCalls config (.call task invocation)) (coherent : config.shared.Coherent)
    (ready : config.shared.Ready) :
    statusContract.Kept task invocation (program task invocation) config.shared := by
  obtain ⟨request, script⟩ := invocation
  have callers := Onward.callers false
  cases task with
  | sequence =>
      obtain rfl : request = .taskTurn := allowed
      exact kept_of_safe rfl (fun _ _ => nofun) (taskTurn_onward ready)
  | caller id =>
      cases request with
      | start owner sequenceId code =>
          exact kept_of_safe rfl (fun _ _ => nofun) (start_onward owner sequenceId code)
      | status owner sequenceId =>
          have whole : (Request.status owner sequenceId).call.Safe Onward Onward
              (StatusRead (.status owner sequenceId, script)) config.shared := by
            refine .bind .refl ((status_safe owner sequenceId coherent).mono
              fun found later read => .pure fun last more status same => ?_)
            obtain ⟨record, proper, rfl⟩ := read status (Reply.status.inj same)
            exact ⟨owner, sequenceId, rfl, record, proper.mono more.disputed, rfl⟩
          exact whole.withScript script
      | abort => exact kept_of_safe rfl (fun _ _ => nofun) (onward_safe callers.abort_each)
      | abortForRelease =>
          exact kept_of_safe rfl (fun _ _ => nofun)
            (onward_safe (Onward.callers true).abortForRelease)
      | retireOwner owner =>
          exact kept_of_safe rfl (fun _ _ => nofun) (onward_safe (callers.retireOwner owner))
      | run _ => exact False.elim allowed
      | taskTurn => exact False.elim allowed

/-- A status is asked for with an id that the parameters of a request admit. -/
def Invocation.Valid (invocation : Invocation) : Prop :=
  ∀ owner sequenceId, invocation.1 = .status owner sequenceId →
    0 ≤ sequenceId ∧ sequenceId ≤ 2147483647

theorem valid_of_allowed {task : Task} {invocation : Invocation}
    (allowed : anyCalls config (.call task invocation)) : invocation.Valid := by
  obtain ⟨request, script⟩ := invocation
  rintro owner sequenceId rfl
  cases task with
  | sequence => cases allowed
  | caller id => exact allowed

/-- Where the controller and its callers stand in an undisputed run. -/
structure StatusInv (config : Runs) : Prop where
  coherent : config.shared.Coherent
  ready : config.shared.Ready
  settled : config.shared.trace.disputed = false
  conforms : statusContract.Conforms config
  valid : ∀ task invocation call, config.running task = some (invocation, call) →
    invocation.Valid
  accepted : ∀ task invocation status,
    (task, invocation, some (.status (some status))) ∈ config.history → HostAccepts status

theorem statusInv_initial : StatusInv (Config.initial {}) where
  coherent := ⟨by decide, acceptedRecord_proper _⟩
  ready := fun runnable => absurd rfl runnable
  settled := rfl
  conforms := Contract.conforms_initial _
  valid := by simp [Config.initial]
  accepted := by simp [Config.initial]

theorem StatusInv.step (inv : StatusInv config) (allowed : undisputed config label)
    (stepped : config.step program label = some next) : StatusInv next := by
  obtain ⟨conforms, moved⟩ := inv.conforms.step
    (fun task invocation same _ => call_kept (same ▸ allowed.1) inv.coherent inv.ready)
    (fun _ _ _ _ _ _ _ _ _ _ _ _ onward => onward) stepped
  have onward : Onward config.shared next.shared := by
    rcases moved with same | ⟨_, _, _, _, onward⟩
    · exact same ▸ .refl _
    · exact onward
  refine ⟨onward.coherent inv.coherent, onward.ready inv.ready, allowed.2 next stepped, conforms,
    Config.running_of_step inv.valid (fun _ _ same => valid_of_allowed (same ▸ allowed.1))
      (fun _ _ _ _ valid => valid) stepped, fun task invocation status member => ?_⟩
  rcases Config.step_cases stepped with
    ⟨_, _, rfl, _, rfl⟩ | ⟨_, _, _, _, rfl, _, rfl⟩ | ⟨_, _, _, rfl, running, rfl⟩
  · exact inv.accepted _ _ _ member
  · exact inv.accepted _ _ _ member
  · rcases List.mem_cons.mp member with same | member
    · cases same
      obtain ⟨owner, sequenceId, asked, record, proper, rfl⟩ :=
        inv.conforms.returned running _ rfl status rfl
      refine Record.Proper.hostAccepts (proper.mono fun disputed => ?_)
        (inv.valid _ _ _ running owner sequenceId asked)
      exact Bool.false_ne_true (inv.settled.symm.trans disputed)
    · exact inv.accepted _ _ _ member

end Step

/-- In a run that no step disputes the host accepts every status. -/
theorem statuses_accepted {allowed : Runs → Label Task Invocation → Prop}
    (within : ∀ config label, allowed config label → undisputed config label) :
    StatusesAccepted allowed := by
  intro config reached
  have inv : StatusInv config := reached.induct statusInv_initial
    fun _ _ _ inv admitted stepped => inv.step (within _ _ admitted) stepped
  exact inv.accepted

theorem statuses_accepted_undisputed : StatusesAccepted undisputed :=
  statuses_accepted fun _ _ admitted => admitted

/-! ### A disputed run -/

/-- A sequence of one key press is started, its report is refused for a lost
authority, and the authority is found current. -/
def disputedRun : List (Label Task Invocation) :=
  .call (.caller 0) (.start 7 5 "kp4".toList,
    [.exchangeFails false, .admission .accepted {} { activeRoles := 255 }, .time 0]) ::
    .replicate 16 (.advance (.caller 0)) ++
  .call .sequence (.taskTurn,
    [.authorityCurrent true, .time 0, .time 0, .report .authorityLost, .authorityCurrent true,
      .exchangeFails false]) ::
    .replicate 23 (.advance .sequence) ++
  .call (.caller 0) (.status 7 5, []) :: .replicate 7 (.advance (.caller 0))

theorem disputedRun_admitted : ∀ label ∈ disputedRun, ∀ config, anyCalls config label := by
  have advances (count : Nat) (task : Task) :
      ∀ label ∈ List.replicate count (Label.advance task), ∀ config, anyCalls config label :=
    fun _ member _ => List.eq_of_mem_replicate member ▸ trivial
  refine List.forall_mem_append.mpr ⟨List.forall_mem_append.mpr ⟨?_, ?_⟩, ?_⟩
  · exact List.forall_mem_cons.mpr ⟨fun _ => trivial, advances 16 _⟩
  · exact List.forall_mem_cons.mpr ⟨fun _ => rfl, advances 23 _⟩
  · exact List.forall_mem_cons.mpr ⟨fun _ => ⟨by decide, by decide⟩, advances 7 _⟩

/-- The status that the run ends with. -/
def disputedStatus : Status where
  sequenceId := 5
  state := some .failed
  started := true
  executed := 0
  failedToken := some 0
  code := some .sessionMismatch

theorem replay_disputedRun :
    (replay program disputedRun (Config.initial {})).map (·.history.head?) =
      some (some (.caller 0, (.status 7 5, []), some (.status (some disputedStatus)))) := by
  decide +kernel

theorem disputedStatus_rejected :
    validateSequenceStatus (makeSequenceStatus (sequenceStatus disputedStatus)) =
      .error "hid.sequence.status failure code is inconsistent" := by
  decide +kernel

/-- **The host rejects a failed sequence that carries the code of an aborted one.** -/
theorem failed_with_sessionMismatch : ¬StatusesAccepted anyCalls := by
  intro accepted
  obtain ⟨config, replayed, returned⟩ := Option.map_eq_some_iff.mp replay_disputedRun
  have reached : Reaches program anyCalls (Config.initial {}) config :=
    .of_replay disputedRun_admitted replayed
  obtain ⟨seen, valid⟩ := (accepted config reached _ _ _ (List.mem_of_mem_head? returned)).accepted
  cases disputedStatus_rejected.symm.trans valid

end HidBot.Sequence
