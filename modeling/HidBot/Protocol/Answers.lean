import HidBot.Protocol.Protocol

/-!
# What a dispatched request answers

The responses of a dispatch name their request, and with regular answers of the
providers every executed command is remembered.
-/

namespace HidBot.ControlProtocol

open ControlSession

/-! ### Responses name their request -/

/-- The result of a hello. -/
def Result.isHello : Result → Bool
  | hello .. => true
  | _ => false

/-- A refusal, or a response that names its session and id and is not one to a hello. -/
def ResponseFrame.Names (response : ResponseFrame) (session : Token) (id : Int) : Prop :=
  (∃ code message, response.body = .error code message) ∨
    (response.session = some session ∧ response.id = some id ∧
      ∃ result, response.body = .result result ∧ result.isHello = false)

/-! ### Regular answers -/

/-- The results of the providers can be formatted, and authority is lost only if the
epoch has changed. -/
structure Answers.Regular (answers : Answers) : Prop where
  led : ∀ session id, isLowerHexToken session = true →
    (makeLedStatus session id answers.bleLedStatus).isSome
  pairing : ∀ session id, isLowerHexToken session = true →
    (makePairingStatus session id answers.blePairingStatus).isSome
  bondList : answers.bleBondList.kind = .success → ∀ session id, isLowerHexToken session = true →
    (makeBondList session id answers.bleBondList).isSome
  bondRemove : answers.bleBondRemove.kind = .success → ∀ session id,
    isLowerHexToken session = true → (makeBondRemove session id answers.bleBondRemove).isSome
  releaseAll : answers.releaseAll.authorityLost = true → answers.epochAfter ≠ answers.epoch
  keyboard : answers.keyboardReport.authorityLost = true ∨
    answers.keyboardReport.failure = .authorityLost → answers.epochAfter ≠ answers.epoch
  mouse : answers.mouseReport.authorityLost = true ∨
    answers.mouseReport.failure = .authorityLost → answers.epochAfter ≠ answers.epoch

/-- What is executed is remembered, unless the epoch has changed. -/
def Outcome.Remembers (answers : Answers) (outcome : Outcome) : Prop :=
  outcome.forgotten = true → answers.epochAfter ≠ answers.epoch

/-- Every response of an outcome names the request, only refusals are given without
executing the command, and with regular answers nothing executed is forgotten. -/
structure Outcome.Proper (request : Request) (answers : Answers) (outcome : Outcome) : Prop where
  names : ∀ response ∈ outcome.response, response.Names request.session request.id
  refuses : outcome.completed = false → outcome.semanticallyValid = false →
    ∀ response ∈ outcome.response, ∃ code message, response.body = .error code message
  remembers : isLowerHexToken request.session = true → answers.Regular →
    outcome.Remembers answers

theorem names_of_makeResult {session : Token} {id : Int} {result : Result}
    {response : ResponseFrame} (plain : result.isHello = false)
    (made : makeResult session id result = some response) : response.Names session id := by
  unfold makeResult makeFrame at made
  split at made
  · obtain rfl := Option.some.inj made
    exact .inr ⟨rfl, rfl, result, rfl, plain⟩
  · cases made

theorem names_of_makeError {session : Option Token} {code message : String} {id number : Int}
    {named : Token} {response : ResponseFrame}
    (made : makeError session (some number) code message = some response) :
    response.Names named id := by
  unfold makeError makeFrame at made
  split at made
  · obtain rfl := Option.some.inj made
    exact .inl ⟨code, message, rfl⟩
  · cases made

namespace Request

variable {request : Request} {answers : Answers}

theorem error_isSome (hex : isLowerHexToken request.session = true) (code message : String) :
    (request.error code message).isSome := by
  simp [error, makeError, makeFrame, hex]

theorem result_isSome (hex : isLowerHexToken request.session = true) (result : Result) :
    (request.result result).isSome := by
  simp [Request.result, makeResult, makeFrame, hex]

theorem error_names (code message : String) :
    ∀ frame ∈ request.error code message, frame.Names request.session request.id :=
  fun _ made => names_of_makeError made

theorem result_names {result : Result} (plain : result.isHello = false) :
    ∀ frame ∈ request.result result, frame.Names request.session request.id :=
  fun _ made => names_of_makeResult plain made

/-! ### Proper outcomes -/

/-- A response that names the request, and can be made from regular answers. -/
structure Answerable (request : Request) (answers : Answers) (response : Option ResponseFrame) :
    Prop where
  names : ∀ frame ∈ response, frame.Names request.session request.id
  made : isLowerHexToken request.session = true → answers.Regular → response.isSome

theorem error_answerable (code message : String) :
    request.Answerable answers (request.error code message) :=
  ⟨error_names code message, fun hex _ => error_isSome hex code message⟩

theorem result_answerable {result : Result} (plain : result.isHello = false) :
    request.Answerable answers (request.result result) :=
  ⟨result_names plain, fun hex _ => result_isSome hex result⟩

theorem proper_of_answerable {outcome : Outcome}
    (completes : outcome.completed = outcome.response.isSome)
    (caches : outcome.cacheResponse = true)
    (answerable : request.Answerable answers outcome.response) :
    outcome.Proper request answers where
  names := answerable.names
  refuses incomplete _ response made := by
    rw [completes, Option.mem_def.mp made] at incomplete
    cases incomplete
  remembers hex regular forgotten := by
    have made := answerable.made hex regular
    rw [Outcome.forgotten, completes, made, if_pos rfl, caches, Option.isNone_eq_false_iff.mpr made]
      at forgotten
    cases forgotten

theorem complete_proper {calls : List ProviderCall} {response : Option ResponseFrame}
    (answerable : request.Answerable answers response) :
    (Outcome.complete calls response).Proper request answers :=
  proper_of_answerable rfl rfl answerable

theorem invalidParams_proper (message : String) (calls : List ProviderCall) :
    (request.invalidParams message calls).Proper request answers where
  names response made := names_of_makeError made
  refuses _ _ response made := by
    simp only [invalidParams, error, makeError, makeFrame] at made
    split at made
    · obtain rfl := Option.some.inj made
      exact ⟨_, _, rfl⟩
    · cases made
  remembers _ _ forgotten := by simp [Outcome.forgotten, invalidParams] at forgotten

theorem authorityLost_proper {calls : List ProviderCall}
    (changed : answers.Regular → answers.epochAfter ≠ answers.epoch) :
    (request.authorityLost calls).Proper request answers where
  names response made := by
    have refused : makeError none (some request.id) "SESSION_MISMATCH"
        "request session is not active" = some response := made
    exact names_of_makeError refused
  refuses completed := by cases completed
  remembers _ regular _ := changed regular

theorem withoutParams_proper {message : String} {outcome : Outcome}
    (proper : outcome.Proper request answers) :
    (request.withoutParams message outcome).Proper request answers := by
  unfold withoutParams
  split
  · exact proper
  · exact invalidParams_proper message []

theorem withParams_proper {Params : Type} {params : Option Params} {message : String}
    {outcome : Params → Outcome} (proper : ∀ params, (outcome params).Proper request answers) :
    (request.withParams params message outcome).Proper request answers := by
  cases params with
  | none => exact invalidParams_proper message []
  | some params => exact proper params

theorem makeLedStatus_answerable :
    request.Answerable answers
      (makeLedStatus request.session request.id answers.bleLedStatus) where
  names frame made := by
    unfold makeLedStatus at made
    split at made
    · cases made
    · exact names_of_makeResult rfl made
  made hex regular := regular.led request.session request.id hex

theorem makePairingStatus_answerable :
    request.Answerable answers
      (makePairingStatus request.session request.id answers.blePairingStatus) where
  names frame made := by
    unfold makePairingStatus at made
    split at made
    · exact names_of_makeError made
    · split at made
      · cases made
      · exact names_of_makeResult rfl made
  made hex regular := regular.pairing request.session request.id hex

theorem makeVersionedHidRouteStatus_answerable (status : HidRouteStatus) (routeV2 : Bool) :
    request.Answerable answers
      (makeVersionedHidRouteStatus request.session request.id status routeV2) := by
  unfold makeVersionedHidRouteStatus
  split
  · exact error_answerable _ _
  · exact result_answerable rfl

theorem usbTransition_proper (call : ProviderCall) (action : UsbExposureActionOutcome) :
    (request.usbTransition call action).Proper request answers := by
  unfold usbTransition
  split
  · exact complete_proper (error_answerable _ _)
  · apply proper_of_answerable rfl rfl
    dsimp only [Outcome.complete]
    cases action.snapshot with
    | none => exact error_answerable _ _
    | some snapshot => exact result_answerable rfl

theorem bleTransition_proper (call : ProviderCall) (action : BleExposureActionOutcome) :
    (request.bleTransition call action).Proper request answers := by
  apply complete_proper
  split
  · exact error_answerable _ _
  · split <;> first | exact error_answerable _ _ | exact result_answerable rfl

theorem routeSet_proper (desired : OutputRoute) (action : HidRouteActionOutcome) :
    (request.routeSet desired action).Proper request answers := by
  unfold routeSet
  split
  · exact complete_proper (error_answerable _ _)
  · exact complete_proper (error_answerable _ _)
  · exact complete_proper (error_answerable _ _)
  all_goals
    split
    · exact complete_proper (error_answerable _ _)
    · exact proper_of_answerable rfl rfl (makeVersionedHidRouteStatus_answerable _ _)

theorem pairingRespond_proper (params : BlePairingRespondRequest)
    (answer : BlePairingRespondResult) :
    (request.pairingRespond params answer).Proper request answers := by
  apply complete_proper
  split <;> first | exact error_answerable _ _ | exact result_answerable rfl

theorem bondList_proper : (request.bondList answers.bleBondList).Proper request answers := by
  apply complete_proper
  split
  · rename_i success
    refine ⟨fun frame made => ?_, fun hex regular => regular.bondList success _ _ hex⟩
    unfold makeBondList at made
    split at made
    · exact names_of_makeResult rfl made
    · cases made
  · exact error_answerable _ _
  · exact error_answerable _ _

theorem bondRemove_proper (bondId : BondId) :
    (request.bondRemove bondId answers.bleBondRemove).Proper request answers := by
  apply complete_proper
  split
  · rename_i success
    refine ⟨fun frame made => ?_, fun hex regular => regular.bondRemove success _ _ hex⟩
    unfold makeBondRemove at made
    split at made
    · exact names_of_makeResult rfl made
    · cases made
  all_goals exact error_answerable _ _

theorem releaseAll_proper (provided : Bool) :
    (request.releaseAll provided answers).Proper request answers := by
  have answered (answer : ReleaseAllResult) (calls : List ProviderCall)
      (changes : answers.Regular → answer.authorityLost = true →
        answers.epochAfter ≠ answers.epoch) :
      (if answer.authorityLost = true ∨ answers.epochAfter ≠ answers.epoch then
        request.authorityLost calls
      else .complete calls <|
        if answer.success = false then
          request.error "HID_SAFETY_PENDING" "all-up safety release is pending"
        else request.result (.releaseAll answer.keyboard answer.mouse)).Proper request answers := by
    split
    · rename_i lost
      exact authorityLost_proper fun regular => lost.elim (changes regular) fun changed => changed
    · apply complete_proper
      split
      · exact error_answerable _ _
      · exact result_answerable rfl
  cases provided with
  | false => exact answered {} [] nofun
  | true => exact answered answers.releaseAll [.releaseAll] fun regular => regular.releaseAll

theorem report_proper (provided : Bool) (call : ProviderCall) (answer : ReportResult)
    (device : String) {result : ReportState → Result}
    (plain : ∀ state, (result state).isHello = false)
    (changes : answers.Regular → answer.authorityLost = true ∨ answer.failure = .authorityLost →
      answers.epochAfter ≠ answers.epoch) :
    (request.report provided call answer device result answers).Proper request answers := by
  have answered (answer : ReportResult) (calls : List ProviderCall)
      (changes : answers.Regular → answer.authorityLost = true ∨ answer.failure = .authorityLost →
        answers.epochAfter ≠ answers.epoch) :
      (if answer.authorityLost = true ∨ answer.failure = .authorityLost ∨
          answers.epochAfter ≠ answers.epoch then request.authorityLost calls
      else .complete calls <|
        if answer.success = false then
          request.error answer.failure.code (answer.failure.message device)
        else request.result (result answer.state)).Proper request answers := by
    split
    · rename_i lost
      apply authorityLost_proper
      intro regular
      rcases lost with lost | lost | changed
      · exact changes regular (.inl lost)
      · exact changes regular (.inr lost)
      · exact changed
    · apply complete_proper
      split
      · exact error_answerable _ _
      · exact result_answerable (plain _)
  cases provided with
  | false => exact answered {} [] fun _ lost => by simp at lost
  | true => exact answered answer [call] changes

theorem sequenceStart_proper (owner : LocalOwnerId) (code : String)
    (answer : SequenceStartResult) :
    (request.sequenceStart owner code answer).Proper request answers := by
  cases answer with
  | invalid => exact invalidParams_proper _ _
  | accepted => exact complete_proper (result_answerable rfl)
  | _ => exact complete_proper (error_answerable _ _)

theorem sequenceStatus_proper (owner : LocalOwnerId) (sequenceId : Int)
    (answer : Option SequenceStatus) :
    (request.sequenceStatus owner sequenceId answer).Proper request answers := by
  apply complete_proper
  cases answer with
  | none => exact error_answerable _ _
  | some status => exact result_answerable rfl

/-- Every command of the protocol has a proper outcome. -/
theorem dispatch_proper (config : Config) (owner : LocalOwnerId) :
    (request.dispatch config answers owner).Proper request answers := by
  unfold dispatch
  split
  case h_5 => exact withoutParams_proper (usbTransition_proper _ _)
  case h_6 => exact withoutParams_proper (usbTransition_proper _ _)
  case h_7 => exact withoutParams_proper (complete_proper makeLedStatus_answerable)
  case h_10 =>
    apply withParams_proper
    intro profile
    apply complete_proper
    split
    · exact error_answerable _ _
    · exact result_answerable rfl
  case h_12 => exact withoutParams_proper (bleTransition_proper _ _)
  case h_13 => exact withoutParams_proper (bleTransition_proper _ _)
  case h_14 => exact withoutParams_proper (complete_proper makePairingStatus_answerable)
  case h_15 => exact withParams_proper fun params => pairingRespond_proper params _
  case h_16 => exact withoutParams_proper bondList_proper
  case h_17 => exact withParams_proper bondRemove_proper
  case h_18 =>
    exact withoutParams_proper (complete_proper (makeVersionedHidRouteStatus_answerable _ _))
  case h_19 => exact withParams_proper fun desired => routeSet_proper desired _
  case h_20 => exact withoutParams_proper (releaseAll_proper _)
  case h_21 => exact withParams_proper fun code => sequenceStart_proper owner code _
  case h_22 => exact withParams_proper fun id => sequenceStatus_proper owner id _
  case h_23 =>
    exact withParams_proper fun params => report_proper _ _ _ _ (fun _ => rfl)
      fun regular => regular.keyboard
  case h_24 =>
    exact withParams_proper fun params => report_proper _ _ _ _ (fun _ => rfl)
      fun regular => regular.mouse
  case h_25 =>
    apply withoutParams_proper
    exact proper_of_answerable rfl rfl (error_answerable _ _)
  all_goals exact withoutParams_proper (complete_proper (result_answerable rfl))

end Request

end HidBot.ControlProtocol
