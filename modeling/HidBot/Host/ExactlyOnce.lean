import HidBot.Host.Link

/-!
# Calls are exactly once

The firmware executes an id of a session at most once, and every response on the link
belongs to a greeting or an execution. The requests of the client have ids of their own,
so a response that matches a call by session and id is the one of its execution, unless
it is a late response to a hello.
-/

namespace HidBot.Host

open ControlSession ControlProtocol Interleaving

variable {Payload : Type} [DecidableEq Payload] {config : Config} {wire : Wire Payload}
  {limits : Limits}

/-! ### The firmware -/

/-- What the firmware keeps, with the responses on the link. -/
structure Firmware (run : Run Payload) (epoch : AuthorityEpoch) (toHost : List ResponseFrame) :
    Prop where
  sound : Sound run.protocol.session
  provenance : Provenance run.protocol.session run.log
  truthful : Truthful run.log
  once : Once (·.toNat < epoch.toNat) run.protocol.session run.log
  explained : ∀ response ∈ toHost, Explained run.log response

omit [DecidableEq Payload] in
theorem mem_responses {events : List (Event Payload)} {response : ResponseFrame}
    (member : response ∈ responses events) : .written response ∈ events := by
  obtain ⟨event, inEvents, answered⟩ := List.mem_filterMap.mp member
  cases event <;> cases answered
  exact inEvents

/-- Frames are handled in an epoch that has not been left, hellos with a token of their
own, and lost executions leave their epoch. -/
structure Handles (config : Config) (wire : Wire Payload) (run : Run Payload)
    (epoch later : AuthorityEpoch) (operation : Operation Payload) : Prop where
  changes : AcceptingChangesEpoch config wire run operation
  advances : epoch.toNat ≤ later.toNat
  alive : ∀ payload answers, operation = .frame payload answers →
    ¬answers.epoch.toNat < epoch.toNat
  drawn : ∀ payload answers id clientNonce, operation = .frame payload answers →
    wire.readEnvelope payload = .ok (.hello id clientNonce) →
      ¬Opened run.log (generateToken answers.randomBytes)
  leaves : ∀ payload answers owner, operation = .frame payload answers →
    ∀ request : Request, isLowerHexToken request.session = true →
      (request.dispatch config answers owner).forgotten = true →
        answers.epoch.toNat < later.toNat

theorem Firmware.operate {run : Run Payload} {epoch later : AuthorityEpoch}
    {toHost : List ResponseFrame} (firmware : Firmware run epoch toHost)
    {operation : Operation Payload} (handles : Handles config wire run epoch later operation) :
    Firmware (run.call config wire operation) later
      (toHost ++ responses (run.protocol.step config wire operation).2) where
  sound := firmware.sound.step operation
  provenance := firmware.provenance.step firmware.sound operation
  truthful := firmware.truthful.step firmware.sound operation
  once := by
    apply firmware.once.step firmware.sound handles.changes handles.alive handles.drawn
      handles.leaves
    intro gone less
    exact less.trans_le handles.advances
  explained response member := by
    rcases List.mem_append.mp member with member | member
    · exact (firmware.explained response member).append
    · exact step_writes firmware.sound firmware.provenance firmware.truthful
        (mem_responses member)

omit [DecidableEq Payload] in
/-- The firmware starts again. -/
theorem Firmware.reboot {run : Run Payload} {epoch : AuthorityEpoch}
    {toHost : List ResponseFrame} (firmware : Firmware run epoch toHost)
    (bootBytes : Vector UInt8 16) :
    Firmware { run with protocol := .initialized bootBytes } 0 toHost where
  sound := initialized_sound bootBytes
  provenance := initialized_provenance bootBytes run.log
  truthful := firmware.truthful
  once := firmware.once.inactive rfl
  explained := firmware.explained

omit [DecidableEq Payload] in
theorem boot_firmware (bootBytes : Vector UInt8 16) :
    Firmware (boot bootBytes : Run Payload) 0 [] where
  sound := initialized_sound bootBytes
  provenance := initialized_provenance bootBytes []
  truthful := ⟨by simp [boot], by simp [boot, executions]⟩
  once := by
    refine ⟨?_, ?_, ?_, ?_⟩
    · intro active
      cases active
    · simp [boot, executions]
    · simp [boot, executions]
    · intro active
      cases active
  explained := by simp

/-! ### The calls -/

/-- A frame that reads as a request is one that the client has made. -/
def Sends (wire : Wire Payload) (made : List (Made Payload)) (frame : Payload) : Prop :=
  ∀ id session command routeV2 params,
    wire.readEnvelope frame = .ok (.request id session command routeV2 params) →
      ⟨id, session, frame⟩ ∈ made

/-- What the client knows of the call that waits. -/
def Awaits (log : List (Event Payload)) (made : List (Made Payload)) :
    Pending Payload → Prop
  | .hello _ nonce _ => ∀ earlier ∈ made, ¬GreetedBy log nonce earlier.session
  | .request id session frame => ⟨id, session, frame⟩ ∈ made

/-- The requests of the client have ids of their own, and are the only ones that the
firmware executes in a session of the client. -/
structure Calls (wire : Wire Payload) (system : System Payload) : Prop where
  session : ∀ session ∈ system.client.session, Ours system.nonces system.run.log session
  ours : ∀ made ∈ system.made, Ours system.nonces system.run.log made.session
  below : ∀ made ∈ system.made, system.client.session = some made.session →
    made.id < system.client.nextRequestId
  distinct : ∀ made ∈ system.made, ∀ other ∈ system.made, made.session = other.session →
    made.id = other.id → made = other
  flight : ∀ frame ∈ system.toDevice, Sends wire system.made frame
  sends : ∀ waiting ∈ system.client.waiting, Sends wire system.made waiting.pending.frame
  greets : ∀ waiting ∈ system.client.waiting, ∀ id nonce frame,
    waiting.pending = .hello id nonce frame → nonce ∈ system.nonces
  awaits : ∀ waiting ∈ system.client.waiting,
    Awaits system.run.log system.made waiting.pending
  executed : ∀ session id, Ours system.nonces system.run.log session →
    ∀ execution ∈ executions session id system.run.log,
      ⟨id, session, execution.request⟩ ∈ system.made

section Greeted

variable {log events : List (Event Payload)} {nonce session : Token} {nonces : List Token}

omit [DecidableEq Payload] in
theorem GreetedBy.opened (greeted : GreetedBy log nonce session) : Opened log session := by
  obtain ⟨owner, epoch, response, member, -⟩ := greeted
  exact ⟨owner, epoch, response, member⟩

omit [DecidableEq Payload] in
theorem GreetedBy.append (greeted : GreetedBy log nonce session) :
    GreetedBy (log ++ events) nonce session := by
  obtain ⟨owner, epoch, response, member, greets⟩ := greeted
  exact ⟨owner, epoch, response, List.mem_append_left _ member, greets⟩

omit [DecidableEq Payload] in
theorem Ours.append (ours : Ours nonces log session) : Ours nonces (log ++ events) session := by
  obtain ⟨nonce, member, greeted⟩ := ours
  exact ⟨nonce, member, greeted.append⟩

omit [DecidableEq Payload] in
theorem Ours.opened (ours : Ours nonces log session) : Opened log session := by
  obtain ⟨nonce, member, greeted⟩ := ours
  exact greeted.opened

/-- A session that an operation greets is new, and the operation handles a hello. -/
theorem greetedBy_step {run : Run Payload} (sound : Sound run.protocol.session)
    {epoch later : AuthorityEpoch} {operation : Operation Payload}
    (handles : Handles config wire run epoch later operation)
    (greeted : GreetedBy (run.log ++ (run.protocol.step config wire operation).2) nonce session) :
    GreetedBy run.log nonce session ∨ ¬Opened run.log session ∧ ∃ payload answers id clientNonce,
      operation = .frame payload answers ∧
        wire.readEnvelope payload = .ok (.hello id clientNonce) := by
  obtain ⟨owner, opening, response, member, greets⟩ := greeted
  rcases List.mem_append.mp member with member | member
  · exact .inl ⟨owner, opening, response, member, greets⟩
  · obtain ⟨payload, answers, id, clientNonce, isFrame, rfl, read, -⟩ := step_opens sound member
    exact .inr ⟨handles.drawn payload answers id clientNonce isFrame read, payload, answers, id,
      clientNonce, isFrame, read⟩

/-- A session in which something was executed becomes ours only if it was. -/
theorem ours_step {run : Run Payload} (sound : Sound run.protocol.session)
    {epoch later : AuthorityEpoch} {operation : Operation Payload}
    (handles : Handles config wire run epoch later operation)
    (ours : Ours nonces (run.log ++ (run.protocol.step config wire operation).2) session)
    (known : Opened run.log session ∨ ∀ payload answers, operation = .frame payload answers →
      ∃ id session command routeV2 params,
        wire.readEnvelope payload = .ok (.request id session command routeV2 params)) :
    Ours nonces run.log session := by
  obtain ⟨nonce, member, greeted⟩ := ours
  rcases greetedBy_step sound handles greeted with greeted | ⟨fresh, payload, answers, _, _,
    isFrame, read⟩
  · exact ⟨nonce, member, greeted⟩
  · rcases known with opened | request
    · exact absurd opened fresh
    · obtain ⟨_, _, _, _, _, other⟩ := request payload answers isFrame
      cases read.symm.trans other

end Greeted

namespace Calls

variable {system : System Payload}

/-- The firmware performs an operation. In our sessions it handles only requests that the
client has made. -/
theorem operate (calls : Calls wire system)
    (firmware : Firmware system.run system.epoch system.toHost) {later : AuthorityEpoch}
    {operation : Operation Payload}
    (handles : Handles config wire system.run system.epoch later operation)
    (own : ∀ payload answers id session command routeV2 params,
      operation = .frame payload answers →
      wire.readEnvelope payload = .ok (.request id session command routeV2 params) →
      Ours system.nonces system.run.log session → ⟨id, session, payload⟩ ∈ system.made) :
    Calls wire (system.operate config wire operation later) where
  session session is := (calls.session session is).append
  ours made member := (calls.ours made member).append
  below := calls.below
  distinct := calls.distinct
  flight := calls.flight
  sends := calls.sends
  greets := calls.greets
  awaits waiting is := by
    have awaits := calls.awaits waiting is
    cases pending : waiting.pending with
    | request id session frame =>
        rw [pending] at awaits
        exact awaits
    | hello id nonce frame =>
        rw [pending] at awaits
        intro earlier member greeted
        rcases greetedBy_step firmware.sound handles greeted with greeted | ⟨fresh, -⟩
        · exact awaits earlier member greeted
        · exact fresh (calls.ours earlier member).opened
  executed session id ours execution member := by
    have member : execution ∈ executions session id
        (system.run.log ++ (system.run.protocol.step config wire operation).2) := member
    rw [executions_append] at member
    rcases List.mem_append.mp member with before | now
    · have opened := firmware.once.opened session id (List.ne_nil_of_mem before)
      exact calls.executed session id (ours_step firmware.sound handles ours (.inl opened))
        execution before
    · obtain ⟨⟨answers, command, routeV2, params, rfl, read⟩, -⟩ := step_executes firmware.sound now
      have wasOurs : Ours system.nonces system.run.log session := by
        apply ours_step firmware.sound handles ours (.inr _)
        intro payload other same
        cases same
        exact ⟨id, session, command, routeV2, params, read⟩
      exact own execution.request answers id session command routeV2 params rfl read wasOurs

omit [DecidableEq Payload] in
/-- The client goes on with the same call, or ends it; known frames are sent or lost. -/
theorem follow (calls : Calls wire system) {client : Client Payload} {toDevice : List Payload}
    {toHost : List ResponseFrame} {ended : List (Ended Payload)}
    (session : ∀ token ∈ client.session, system.client.session = some token)
    (next : client.nextRequestId = system.client.nextRequestId)
    (waiting : ∀ waiting ∈ client.waiting, ∃ before ∈ system.client.waiting,
      before.pending = waiting.pending)
    (flight : ∀ frame ∈ toDevice, Sends wire system.made frame) :
    Calls wire { system with client, toDevice, toHost, ended } where
  session token is := calls.session token (session token is)
  ours := calls.ours
  below made member is := by
    show made.id < client.nextRequestId
    rw [next]
    exact calls.below made member (session _ is)
  distinct := calls.distinct
  flight := flight
  sends later is := by
    obtain ⟨before, was, same⟩ := waiting later is
    rw [← same]
    exact calls.sends before was
  greets later is id nonce frame pending := by
    obtain ⟨before, was, same⟩ := waiting later is
    exact calls.greets before was id nonce frame (same.trans pending)
  awaits later is := by
    obtain ⟨before, was, same⟩ := waiting later is
    rw [← same]
    exact calls.awaits before was
  executed := calls.executed

omit [DecidableEq Payload] in
theorem awaits_request {log : List (Event Payload)} {made : List (Made Payload)} {id : Int}
    {session : Token} {frame : Payload} (member : ⟨id, session, frame⟩ ∈ made) :
    Awaits log made (.request id session frame) := member

omit [DecidableEq Payload] in
/-- A session that a hello of the waiting call has opened is entered. -/
theorem enter (calls : Calls wire system) {waiting : Waiting Payload}
    (waits : system.client.waiting = some waiting) {id : Int} {nonce session : Token}
    {frame : Payload} (pending : waiting.pending = .hello id nonce frame)
    (greeted : GreetedBy system.run.log nonce session) {toHost : List ResponseFrame}
    {ended : List (Ended Payload)} :
    Calls wire { system with
      client := { system.client with
        session := some session, nextRequestId := 0, waiting := none }
      toHost, ended } where
  session token is := by
    cases is
    exact ⟨nonce, calls.greets waiting waits id nonce frame pending, greeted⟩
  ours := calls.ours
  below made member is := by
    cases is
    have awaits := calls.awaits waiting waits
    rw [pending] at awaits
    exact absurd greeted (awaits made member)
  distinct := calls.distinct
  flight := calls.flight
  sends := by simp
  greets := by simp
  awaits := by simp
  executed := calls.executed

omit [DecidableEq Payload] in
/-- A fresh hello is sent. -/
theorem connect (calls : Calls wire system) {nonce : Token} {frame : Payload}
    (assumed : Assumed wire system (.connect nonce frame)) :
    Calls wire (system.connect nonce frame) := by
  obtain ⟨-, fresh, reads⟩ := assumed
  have sends : Sends wire system.made frame := by
    intro id session command routeV2 params read
    cases reads _ read
  have same session : Ours (system.nonces ++ [nonce]) system.run.log session →
      Ours system.nonces system.run.log session := by
    rintro ⟨other, member, greeted⟩
    rcases List.mem_append.mp member with member | member
    · exact ⟨other, member, greeted⟩
    · rw [List.mem_singleton.mp member] at greeted
      exact absurd greeted (fresh session)
  unfold System.connect
  split
  · exact calls.follow (fun _ is => by cases is) rfl (fun waiting is => ⟨waiting, is, rfl⟩)
      calls.flight
  · constructor
    · intro token is
      cases is
    · intro made member
      obtain ⟨other, known, greeted⟩ := calls.ours made member
      exact ⟨other, List.mem_append_left _ known, greeted⟩
    · intro made member is
      cases is
    · exact calls.distinct
    · intro sent member
      rcases List.mem_append.mp member with member | member
      · exact calls.flight sent member
      · rw [List.mem_singleton.mp member]
        exact sends
    · intro waiting is
      cases is
      exact sends
    · intro waiting is id other sent pending
      cases is
      cases pending
      exact List.mem_append_right _ (List.mem_singleton_self _)
    · intro waiting is
      cases is
      exact fun earlier _ => fresh earlier.session
    · intro session id ours
      exact calls.executed session id (same session ours)

omit [DecidableEq Payload] in
/-- A request is sent in the session of the client. -/
theorem call (calls : Calls wire system) {session : Token} {frame : Payload}
    (current : system.client.session = some session)
    (assumed : Assumed wire system (.call frame)) : Calls wire (system.call session frame) := by
  unfold System.call
  split
  · exact calls.follow (fun _ is => by cases is) rfl (fun waiting is => ⟨waiting, is, rfl⟩)
      calls.flight
  · have more : system.made ⊆
        system.made ++ [⟨system.client.nextRequestId, session, frame⟩] :=
      List.subset_append_left _ _
    have known : ⟨system.client.nextRequestId, session, frame⟩ ∈
        system.made ++ [⟨system.client.nextRequestId, session, frame⟩] :=
      List.mem_append_right _ (List.mem_singleton_self _)
    have sends : Sends wire (system.made ++ [⟨system.client.nextRequestId, session, frame⟩])
        frame := by
      intro id token command routeV2 params read
      obtain ⟨_, _, _, same⟩ := assumed session _ current read
      cases same
      exact known
    have newer : ∀ made ∈ system.made, made.session = session →
        made.id < system.client.nextRequestId := by
      intro made member same
      exact calls.below made member (same ▸ current)
    constructor
    · exact calls.session
    · intro made member
      rcases List.mem_append.mp member with member | member
      · exact calls.ours made member
      · rw [List.mem_singleton.mp member]
        exact calls.session session current
    · intro made member is
      show made.id < system.client.nextRequestId + 1
      rcases List.mem_append.mp member with member | member
      · have less := calls.below made member is
        omega
      · rw [List.mem_singleton.mp member]
        exact Int.lt_succ _
    · intro made member other otherMember sameSession sameId
      rcases List.mem_append.mp member with member | member
      · rcases List.mem_append.mp otherMember with otherMember | otherMember
        · exact calls.distinct made member other otherMember sameSession sameId
        · rw [List.mem_singleton.mp otherMember] at sameSession sameId
          exact absurd sameId (newer made member sameSession).ne
      · rw [List.mem_singleton.mp member] at sameSession sameId ⊢
        rcases List.mem_append.mp otherMember with otherMember | otherMember
        · exact absurd sameId.symm (newer other otherMember sameSession.symm).ne
        · exact (List.mem_singleton.mp otherMember).symm
    · intro sent member
      rcases List.mem_append.mp member with member | member
      · intro id token command routeV2 params read
        exact more (calls.flight sent member id token command routeV2 params read)
      · rw [List.mem_singleton.mp member]
        exact sends
    · intro waiting is
      cases is
      exact sends
    · intro waiting is id nonce sent pending
      cases is
      cases pending
    · intro waiting is
      cases is
      exact awaits_request known
    · intro token id ours execution member
      exact more (calls.executed token id ours execution member)

end Calls

/-! ### The whole system -/

structure Consistent (wire : Wire Payload) (system : System Payload) : Prop where
  firmware : Firmware system.run system.epoch system.toHost
  calls : Calls wire system
  settled : ∀ ended ∈ system.ended, Settled system.run.log ended

omit [DecidableEq Payload] in
theorem executions_stay {log events : List (Event Payload)} {session : Token} {id : Int}
    {execution : Execution Payload} (once : (executions session id (log ++ events)).length ≤ 1)
    (only : executions session id log = [execution]) :
    executions session id (log ++ events) = [execution] := by
  rw [executions_append, only] at once ⊢
  cases more : executions session id events with
  | nil => rfl
  | cons first rest =>
      rw [more] at once
      simp at once

omit [DecidableEq Payload] in
/-- What has happened to an ended call is final. -/
theorem Settled.append {log events : List (Event Payload)} {ended : Ended Payload}
    (settled : Settled log ended)
    (once : ∀ session id, (executions session id (log ++ events)).length ≤ 1) :
    Settled (log ++ events) ended := by
  unfold Settled at settled ⊢
  split
  · rename_i id session frame pending
    rw [pending] at settled
    refine ⟨once session id, fun result returned => ?_⟩
    obtain ⟨response, only, answers⟩ := settled.2 result returned
    exact ⟨response, executions_stay (once session id) only, answers⟩
  · rename_i id nonce frame pending
    rw [pending] at settled
    intro result returned
    obtain ⟨owner, session, epoch, response, member, greets⟩ := settled result returned
    exact ⟨owner, session, epoch, response, List.mem_append_left _ member, greets⟩

theorem Steady.handles {system : System Payload} {payload : Payload} {answers : Answers}
    (steady : Steady config wire system payload answers)
    (fresh : FreshToken wire system payload answers) :
    Handles config wire system.run system.epoch answers.epochAfter (.frame payload answers) where
  changes := steady.changes
  advances :=
    (UInt32.le_iff_toNat_le.mp steady.advances).trans
      (UInt32.le_iff_toNat_le.mp steady.advancesAfter)
  alive other same isFrame := by
    cases isFrame
    exact not_lt.mpr (UInt32.le_iff_toNat_le.mp steady.advances)
  drawn other same id clientNonce isFrame read := by
    cases isFrame
    exact fresh id clientNonce read
  leaves other same owner isFrame request hex forgotten := by
    cases isFrame
    have changed := (request.dispatch_proper config owner).remembers hex steady.regular forgotten
    have advances := UInt32.le_iff_toNat_le.mp steady.advancesAfter
    have distinct : answers.epochAfter.toNat ≠ answers.epoch.toNat := fun equal =>
      changed (UInt32.toNat_inj.mp equal)
    omega

/-- An operation that handles no frame. -/
theorem handles_of_noFrame {run : Run Payload} {epoch later : AuthorityEpoch}
    {operation : Operation Payload} (noFrame : ∀ payload answers, operation ≠ .frame payload answers)
    (advances : epoch ≤ later) : Handles config wire run epoch later operation where
  changes payload answers _ isFrame := absurd isFrame (noFrame payload answers)
  advances := UInt32.le_iff_toNat_le.mp advances
  alive payload answers isFrame := absurd isFrame (noFrame payload answers)
  drawn payload answers _ _ isFrame := absurd isFrame (noFrame payload answers)
  leaves payload answers _ isFrame := absurd isFrame (noFrame payload answers)

namespace Consistent

variable {system : System Payload}

theorem operate (consistent : Consistent wire system) {later : AuthorityEpoch}
    {operation : Operation Payload}
    (handles : Handles config wire system.run system.epoch later operation)
    (own : ∀ payload answers id session command routeV2 params,
      operation = .frame payload answers →
      wire.readEnvelope payload = .ok (.request id session command routeV2 params) →
      Ours system.nonces system.run.log session → ⟨id, session, payload⟩ ∈ system.made) :
    Consistent wire (system.operate config wire operation later) :=
  have firmware := consistent.firmware.operate handles
  ⟨firmware, consistent.calls.operate consistent.firmware handles own,
    fun ended member => (consistent.settled ended member).append firmware.once.once⟩

/-- An operation that handles no frame. -/
theorem operate_noFrame (consistent : Consistent wire system) {later : AuthorityEpoch}
    {operation : Operation Payload} (noFrame : ∀ payload answers, operation ≠ .frame payload answers)
    (advances : system.epoch ≤ later) :
    Consistent wire (system.operate config wire operation later) := by
  apply consistent.operate (handles_of_noFrame noFrame advances)
  intro payload answers _ _ _ _ _ isFrame
  exact absurd isFrame (noFrame payload answers)

omit [DecidableEq Payload] in
/-- A frame of the client is lost or taken from its link. -/
theorem takeRequest (consistent : Consistent wire system) {toDevice : List Payload}
    (fewer : toDevice ⊆ system.toDevice) : Consistent wire { system with toDevice } where
  firmware := consistent.firmware
  calls := consistent.calls.follow (fun _ is => is) rfl (fun waiting is => ⟨waiting, is, rfl⟩)
    fun frame member => consistent.calls.flight frame (fewer member)
  settled := consistent.settled

omit [DecidableEq Payload] in
/-- A response is lost or taken from its link. -/
theorem takeResponse (consistent : Consistent wire system) {toHost : List ResponseFrame}
    (fewer : toHost ⊆ system.toHost) : Consistent wire { system with toHost } where
  firmware := { consistent.firmware with
    explained := fun response member => consistent.firmware.explained response (fewer member) }
  calls := consistent.calls.follow (fun _ is => is) rfl (fun waiting is => ⟨waiting, is, rfl⟩)
    consistent.calls.flight
  settled := consistent.settled

omit [DecidableEq Payload] in
theorem raised (consistent : Consistent wire system) (pending : Pending Payload) :
    Settled system.run.log ⟨pending, .raised⟩ := by
  cases pending with
  | hello id nonce frame => exact fun result returned => by cases returned
  | request id session frame =>
      exact ⟨consistent.firmware.once.once session id, fun result returned => by cases returned⟩

omit [DecidableEq Payload] in
/-- The client goes on with the waiting call, or ends it without a result. -/
theorem proceed (consistent : Consistent wire system) {waiting : Waiting Payload}
    {outcome : Client Payload × Option Ending}
    (calls : Calls wire (system.proceed waiting outcome))
    (settled : ∀ ending ∈ outcome.2, Settled system.run.log ⟨waiting.pending, ending⟩) :
    Consistent wire (system.proceed waiting outcome) where
  firmware := consistent.firmware
  calls := calls
  settled ended member := by
    rcases List.mem_append.mp member with member | member
    · exact consistent.settled ended member
    · obtain ⟨outcomeClient, _ | ending⟩ := outcome
      · cases member
      · rw [List.mem_singleton.mp member]
        exact settled ending rfl

omit [DecidableEq Payload] in
/-- A response to a waiting request that is not one to a hello is that of its execution. -/
theorem answered (consistent : Consistent wire system) {waiting : Waiting Payload}
    (waits : system.client.waiting = some waiting) {id : Int} {session : Token} {frame : Payload}
    {answer : ResponseFrame} {result : Result}
    (pending : waiting.pending = .request id session frame)
    (explained : Explained system.run.log answer)
    (numbered : answer.id = some id) (named : answer.session = some session)
    (body : answer.body = .result result) (notHello : ∀ nonce, ¬answer.Greets nonce session) :
    Settled system.run.log ⟨waiting.pending, .returned result⟩ := by
  rw [pending]
  have once := consistent.firmware.once.once session id
  refine ⟨once, fun other returned => ?_⟩
  cases returned
  cases explained with
  | refusal refuses => cases body.symm.trans refuses
  | greeting opened greets =>
      cases named.symm.trans greets.1
      exact absurd greets (notHello _)
  | @answer inSession number execution executed response isNamed isNumbered _ _ _ =>
      cases named.symm.trans isNamed
      cases numbered.symm.trans isNumbered
      have made := consistent.calls.awaits waiting waits
      rw [pending] at made
      have mine := consistent.calls.executed session id (consistent.calls.ours _ made) execution
        executed
      have same := consistent.calls.distinct _ mine _ made rfl rfl
      obtain ⟨request, answered⟩ := execution
      cases same
      cases response
      obtain ⟨only, is⟩ := List.length_eq_one_iff.mp
        (once.antisymm (List.length_pos_of_mem executed))
      rw [is] at executed
      rw [← List.mem_singleton.mp executed] at is
      exact ⟨answer, is, named, numbered, body⟩

omit [DecidableEq Payload] in
/-- A result of a hello of this nonce opened the session that it names. -/
theorem greeted {log : List (Event Payload)} {answer : ResponseFrame} {result : Result}
    {nonce session : Token} (explained : Explained log answer)
    (named : answer.session = some session) (body : answer.body = .result result)
    (own : clientNonce? result = some nonce) :
    ∃ owner epoch, .activated owner session epoch answer ∈ log ∧ answer.Greets nonce session := by
  cases explained with
  | refusal refuses => cases body.symm.trans refuses
  | @greeting owner opened epoch clientNonce member greets =>
      obtain ⟨isNamed, project, bootId, leaseMs, identity, isBody⟩ := greets
      cases named.symm.trans isNamed
      cases body.symm.trans isBody
      cases own
      exact ⟨owner, epoch, member, isNamed, project, bootId, leaseMs, identity, isBody⟩
  | answer _ _ _ _ _ _ isBody plain =>
      cases body.symm.trans isBody
      cases result <;> simp [clientNonce?, Result.isHello] at own plain

omit [DecidableEq Payload] in
/-- The client reads a frame while a call waits. -/
theorem receive (consistent : Consistent wire system) {waiting : Waiting Payload}
    (waits : system.client.waiting = some waiting) {response : Option ResponseFrame}
    (explained : ∀ answer ∈ response, Explained system.run.log answer)
    (notHello : ∀ answer ∈ response, ∀ id session frame,
      waiting.pending = .request id session frame → answer.id = some id →
        answer.session = some session → ∀ nonce, ¬answer.Greets nonce session) :
    Consistent wire
      (system.proceed waiting (system.client.receive limits waiting response)) := by
  have reception : system.client.Reception waiting response
      (system.client.receive limits waiting response) := Client.receive_cases
  have ends {client : Client Payload} {ending : Ending}
      (session : ∀ token ∈ client.session, system.client.session = some token)
      (next : client.nextRequestId = system.client.nextRequestId) (idle : client.waiting = none) :
      Calls wire (system.proceed waiting (client, some ending)) :=
    consistent.calls.follow session next (fun _ is => by rw [idle] at is; cases is)
      consistent.calls.flight
  generalize system.client.receive limits waiting response = outcome at reception ⊢
  cases reception with
  | unmatched =>
      apply consistent.proceed
      · exact consistent.calls.follow (fun _ is => is) rfl
          (fun later is => by cases is; exact ⟨waiting, waits, rfl⟩) consistent.calls.flight
      · exact fun ending is => by cases is
  | raised session kept =>
      apply consistent.proceed
      · exact ends kept rfl rfl
      · intro ending is
        cases is
        exact consistent.raised waiting.pending
  | answered pending received numbered named body =>
      apply consistent.proceed
      · exact ends (fun _ is => is) rfl rfl
      · intro ending is
        cases is
        exact consistent.answered waits pending (explained _ received) numbered named body
          (notHello _ received _ _ _ pending numbered named)
  | @greeted id nonce session frame answer result pending received named body own valid =>
      obtain ⟨owner, epoch, member, greets⟩ := greeted (explained _ received) named body own
      apply consistent.proceed
      · exact consistent.calls.enter waits pending ⟨owner, epoch, answer, member, greets⟩
      · intro ending is
        cases is
        rw [pending]
        intro other returned
        cases returned
        exact ⟨owner, session, epoch, answer, member, greets, body⟩

/-- One act. -/
theorem act (consistent : Consistent wire system) (act : Act Payload)
    (assumed : Assumed wire system act) (undisturbed : Undisturbed config wire system act) :
    Consistent wire (system.act config wire limits act) := by
  have gives (waiting : Waiting Payload) (waits : system.client.waiting = some waiting) :
      Consistent wire (system.proceed waiting (system.client.finish .raised)) := by
    apply consistent.proceed
    · exact consistent.calls.follow (fun _ is => is) rfl (fun _ is => by cases is)
        consistent.calls.flight
    · exact fun ending is => by cases is; exact consistent.raised waiting.pending
  have operate {toDevice : List Payload} (fewer : toDevice ⊆ system.toDevice)
      {payload : Payload} {answers : Answers}
      (steady : Steady config wire system payload answers)
      (fresh : FreshToken wire system payload answers)
      (own : ∀ id session command routeV2 params,
        wire.readEnvelope payload = .ok (.request id session command routeV2 params) →
        Ours system.nonces system.run.log session → ⟨id, session, payload⟩ ∈ system.made) :
      Consistent wire ({ system with toDevice }.operate config wire (.frame payload answers)
        answers.epochAfter) := by
    apply (consistent.takeRequest fewer).operate (steady.handles fresh)
    intro other _ id session command routeV2 params isFrame
    cases isFrame
    exact own id session command routeV2 params
  cases act with
  | connect nonce frame =>
      unfold System.act
      dsimp only
      split
      · exact ⟨by unfold System.connect; split <;> exact consistent.firmware,
          consistent.calls.connect assumed, by
            unfold System.connect; split <;> exact consistent.settled⟩
      · exact consistent
  | call frame =>
      unfold System.act
      dsimp only
      split
      · rename_i session _ current
        exact ⟨by unfold System.call; split <;> exact consistent.firmware,
          consistent.calls.call current assumed, by
            unfold System.call; split <;> exact consistent.settled⟩
      · exact consistent
  | timeout =>
      unfold System.act
      dsimp only
      split
      · exact consistent
      · rename_i waiting waits
        unfold System.timeout
        split
        · refine ⟨consistent.firmware, consistent.calls.follow (fun _ is => is) rfl ?_ ?_,
            consistent.settled⟩
          · intro later is
            cases is
            exact ⟨waiting, waits, rfl⟩
          · intro frame member
            rcases List.mem_append.mp member with member | member
            · exact consistent.calls.flight frame member
            · rw [List.mem_singleton.mp member]
              exact consistent.calls.sends waiting waits
        · exact gives waiting waits
  | abandon =>
      unfold System.act
      dsimp only
      split
      · exact consistent
      · rename_i waiting waits
        exact gives waiting waits
  | invalidateSession =>
      unfold System.act
      dsimp only
      split
      · exact ⟨consistent.firmware, consistent.calls.follow (fun _ is => by cases is) rfl
          (fun waiting is => ⟨waiting, is, rfl⟩) consistent.calls.flight, consistent.settled⟩
      · exact consistent
  | receive intact =>
      unfold System.act
      dsimp only
      split
      · rename_i waiting response toHost waits arrives
        have taken : Consistent wire { system with toHost } := by
          apply consistent.takeResponse
          rw [arrives]
          exact List.subset_cons_self response toHost
        apply taken.receive waits
        · intro answer is
          cases intact with
          | false => cases is
          | true =>
              cases is
              apply consistent.firmware.explained
              rw [arrives]
              exact List.mem_cons_self
        · intro answer is id session frame pending numbered named
          cases intact with
          | false => cases is
          | true =>
              cases is
              exact undisturbed waiting id session frame waits pending response
                (by rw [arrives]; rfl) numbered named
      · exact consistent
  | loseRequest => exact consistent.takeRequest (List.tail_sublist _).subset
  | loseResponse => exact consistent.takeResponse (List.tail_sublist _).subset
  | deliver answers =>
      unfold System.act
      dsimp only
      split
      · exact consistent
      · rename_i frame toDevice arrives
        have first : frame ∈ system.toDevice.head? := by rw [arrives]; rfl
        apply operate _ (undisturbed frame first) (assumed frame first)
        · intro id session command routeV2 params read _
          exact consistent.calls.flight frame (List.mem_of_mem_head? first) id session command
            routeV2 params read
        · rw [arrives]
          exact List.subset_cons_self frame toDevice
  | deliverCorrupted payload answers =>
      obtain ⟨rejection, rejected⟩ := assumed
      apply operate (List.tail_sublist _).subset undisturbed
      · intro id session command routeV2 params read
        cases rejected.symm.trans read
      · intro id clientNonce read
        cases rejected.symm.trans read
  | foreign payload answers =>
      apply operate (List.Subset.refl _) undisturbed assumed.1
      intro id session command routeV2 params read ours
      exact absurd ours (assumed.2 id session command routeV2 params read)
  | lifecycleInvalidation epoch => exact consistent.operate_noFrame (by simp) undisturbed
  | safetyFailure owner => exact consistent.operate_noFrame (by simp) (UInt32.le_refl _)
  | service epoch now => exact consistent.operate_noFrame (by simp) undisturbed
  | reboot bootBytes =>
      exact ⟨consistent.firmware.reboot bootBytes,
        { consistent.calls with }, consistent.settled⟩

end Consistent

omit [DecidableEq Payload] in
theorem start_consistent (bootBytes : Vector UInt8 16) :
    Consistent wire (start bootBytes : System Payload) where
  firmware := boot_firmware bootBytes
  calls := by
    constructor <;> simp [start, boot, executions]
  settled := by simp [start]

/-- **Calls are exactly once** in every run in which no late response to a hello is
received for a request, and in which the environment is steady. -/
theorem calls_exactly_once {allowed : System Payload → Act Payload → Prop}
    (undisturbed : ∀ system act, allowed system act →
      Assumed wire system act ∧ Undisturbed config wire system act) :
    ExactlyOnce config wire limits allowed := by
  intro bootBytes system follows
  have consistent : Consistent wire system := by
    induction follows with
    | refl => exact start_consistent bootBytes
    | step act _ admitted ih =>
        obtain ⟨assumed, steady⟩ := undisturbed _ act admitted
        exact ih.act act assumed steady
  exact consistent.settled

theorem calls_exactly_once_undisturbed :
    ExactlyOnce {} pairingWire {} fun system act =>
      Assumed pairingWire system act ∧ Undisturbed {} pairingWire system act :=
  calls_exactly_once fun _ _ both => both

/-! ### A late response to a hello -/

/-- The two texts that a client sends. -/
inductive Text where
  | hello
  | ping
  deriving DecidableEq

def Text.json : Text → Json
  | hello => .object [("v", .number (some 1)), ("id", .number (some 0)),
      ("cmd", .string "protocol.hello"),
      ("params", .object [("client_nonce", .string "0123456789abcdef0123456789abcdef")])]
  | ping => .object [("v", .number (some 1)), ("id", .number (some 0)),
      ("session", .string "00000000000000000000000000000000"), ("cmd", .string "system.ping")]

def textWire : Wire Text where
  size
    | .hello => 102
    | .ping => 77
  containsNul _ := false
  backslash _ := false
  escapedNul _ := false
  parse text := some text.json
  digest _ := .replicate 32 0

def textConfig : Config := { metadata := { project := "s3-hidbot" } }

def textAct (act : Act Text) (system : System Text) : System Text :=
  system.act textConfig textWire {} act

/-- A hello is sent twice. -/
def greeting : System Text :=
  textAct .timeout
    (textAct (.connect "0123456789abcdef0123456789abcdef" .hello) (start (.replicate 16 0)))

/-- The first frame is answered, then the second one. -/
def answering : System Text := textAct (.deliver {}) greeting
def answeredTwice : System Text := textAct (.deliver { randomBytes := .replicate 16 1 }) answering

/-- The first answer opens the session. -/
def connected : System Text := textAct (.receive true) answeredTwice

/-- The second answer is read by a ping. -/
def pinged : System Text := textAct (.receive true) (textAct (.call .ping) connected)

/-- The session that an event opens. -/
def openedSession : Event Text → Option Token
  | .activated _ session _ _ => some session
  | _ => none

set_option maxRecDepth 20000 in
theorem answering_opened : ¬Opened answering.run.log (generateToken (.replicate 16 1)) := by
  rintro ⟨owner, epoch, response, member⟩
  have sessions : answering.run.log.filterMap openedSession =
      ["00000000000000000000000000000000"] := by decide +kernel
  have found : generateToken (.replicate 16 1) ∈ ["00000000000000000000000000000000"] := by
    rw [← sessions]
    exact List.mem_filterMap.mpr ⟨_, member, rfl⟩
  revert found
  decide +kernel

set_option maxRecDepth 20000 in
theorem connected_session :
    connected.client.session = some "00000000000000000000000000000000" := by decide +kernel

set_option maxRecDepth 20000 in
theorem pinged_ended : ∃ hello result, pinged.ended =
    [hello, ⟨.request 0 "00000000000000000000000000000000" .ping, .returned result⟩] :=
  ⟨_, _, by rfl⟩

set_option maxRecDepth 20000 in
theorem pinged_executions :
    executions "00000000000000000000000000000000" 0 pinged.run.log = [] := by rfl

/-- A run with the assumptions. -/
abbrev Assuming (system : System Text) : Prop :=
  Follows textAct (fun system act => Assumed textWire system act) (start (.replicate 16 0)) system

set_option maxRecDepth 20000 in
theorem greeting_assuming : Assuming greeting := by
  apply Follows.step Act.timeout _ trivial
  apply Follows.step (Act.connect _ _) .refl
  refine ⟨by simp [start], ?_, ?_⟩
  · rintro session ⟨owner, epoch, response, member, -⟩
    cases member
  · intro envelope read
    have known : textWire.readEnvelope .hello =
        .ok (.hello 0 "0123456789abcdef0123456789abcdef") := by rfl
    exact (Except.ok.inj (known.symm.trans read)).symm

theorem connected_assuming : Assuming connected := by
  apply Follows.step (Act.receive true) _ trivial
  apply Follows.step (Act.deliver _)
  · apply Follows.step (Act.deliver _) greeting_assuming
    rintro frame _ id clientNonce _ ⟨owner, epoch, response, member⟩
    cases member
  · intro frame _ id clientNonce _
    exact answering_opened

set_option maxRecDepth 20000 in
theorem pinged_assuming : Assuming pinged := by
  apply Follows.step (Act.receive true) _ trivial
  apply Follows.step (Act.call _) connected_assuming
  intro session envelope current read
  cases connected_session.symm.trans current
  have known : textWire.readEnvelope .ping = .ok
      (.request 0 "00000000000000000000000000000000" "system.ping" false none) := by rfl
  exact ⟨_, _, _, (Except.ok.inj (known.symm.trans read)).symm⟩

/-- **A late answer to the hello** is returned for a ping that was never executed. -/
theorem late_hello_answers_ping :
    ¬∀ (config : Config) (wire : Wire Text) (limits : Limits),
      ExactlyOnce config wire limits fun system act => Assumed wire system act := by
  intro exactlyOnce
  obtain ⟨hello, result, ended⟩ := pinged_ended
  have settled := exactlyOnce textConfig textWire {} _ _ pinged_assuming _
    (by rw [ended]; exact List.mem_cons_of_mem _ (List.mem_singleton_self _))
  obtain ⟨response, only, -⟩ := settled.2 result rfl
  rw [pinged_executions] at only
  cases only

end HidBot.Host
