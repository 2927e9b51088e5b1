import HidBot.Host.Response

/-!
# Malformed payloads

A tree is refused for the first of its faults in the order of the document, and a lone
surrogate is a fault for which the host has no error. A payload is classified by the loop
over the responses exactly when it does not come first.
-/

namespace HidBot.HostProtocol

open Python

/-! ### Faults -/

section Faults

variable {ε : Type}

/-- A bound that is exceeded, or a text that has no encoding. -/
inductive Fault (ε : Type) where
  | limit (error : ε)
  | surrogate
  deriving DecidableEq

/-- What a check raises that stops at the first fault. -/
def verdict : List (Fault ε) → Check ε Unit
  | [] => pure ()
  | .limit error :: _ => refuse error
  | .surrogate :: _ => .error .unicodeEncodeError

/-- No lone surrogate comes before every other fault. -/
def Covered (faults : List (Fault ε)) : Prop := faults.head? ≠ some .surrogate

instance [DecidableEq ε] (faults : List (Fault ε)) : Decidable (Covered faults) :=
  inferInstanceAs (Decidable (_ ≠ _))

theorem handled_verdict {faults : List (Fault ε)} : Handled (verdict faults) ↔ Covered faults := by
  cases faults with
  | nil => simp [verdict, Covered]
  | cons fault faults => cases fault with
    | limit error => simp [verdict, Covered]
    | surrogate =>
        exact iff_of_false (fun handled => by simpa using handled _ rfl) (by simp [Covered])

theorem verdict_append (first rest : List (Fault ε)) :
    verdict (first ++ rest) = (do verdict first; verdict rest) := by
  cases first with
  | nil => rfl
  | cons fault first => cases fault <;> rfl

theorem verdict_ok {faults : List (Fault ε)} {result : Unit} :
    verdict faults = .ok result ↔ faults = [] := by
  cases faults with
  | nil => exact iff_of_true rfl rfl
  | cons fault faults => cases fault <;> simp [verdict, refuse]

def limitUnless (holds : Prop) [Decidable holds] (error : ε) : List (Fault ε) :=
  if holds then [] else [.limit error]

theorem require_verdict (holds : Prop) [Decidable holds] (error : ε) :
    require holds error = verdict (limitUnless holds error) := by
  unfold require limitUnless
  split_ifs <;> rfl

def textFaults (error : ε) (value : Text) : List (Fault ε) :=
  match (encodedLength value : Check ε Nat) with
  | .ok length => limitUnless (length ≤ maxStringBytes) error
  | .error _ => [.surrogate]

theorem boundedText_verdict (error : ε) (value : Text) :
    boundedText error value = verdict (textFaults error value) := by
  unfold boundedText textFaults encodedLength
  split_ifs with encodable
  · exact require_verdict _ error
  · rfl

theorem verdict_flatMap {α : Type} (faults : α → List (Fault ε)) (items : List α) :
    (items.forM fun item => verdict (faults item)) = verdict (items.flatMap faults) := by
  induction items with
  | nil => rfl
  | cons item items ih =>
      rw [List.flatMap_cons, verdict_append, ← ih]
      rfl

theorem boundedTexts_verdict (error : ε) (values : List Text) :
    boundedTexts error values = verdict (values.flatMap (textFaults error)) := by
  rw [← verdict_flatMap]
  exact congrArg values.forM (funext fun value => boundedText_verdict error value)

end Faults

mutual

/-- The faults of a tree in the order in which they are met. -/
def treeFaults (depth : Nat) (path : List Text) (value : Value) : List (Fault ProtocolError) :=
  limitUnless (depth ≤ maxJsonDepth) nestingError ++
  match value with
  | .null | .bool _ | .int _ => []
  | .str value => textFaults stringError value
  | .float value => limitUnless value.isSome numberError
  | .list items =>
      limitUnless (items.length ≤ arrayBound path) arrayError ++
        itemsFaults (depth + 1) (path ++ [text "*"]) items
  | .dict members =>
      limitUnless (members.length ≤ maxObjectMembers) objectError ++
        membersFaults (depth + 1) path members

def itemsFaults (depth : Nat) (path : List Text) : List Value → List (Fault ProtocolError)
  | [] => []
  | item :: items => treeFaults depth path item ++ itemsFaults depth path items

def membersFaults (depth : Nat) (path : List Text) :
    List (Text × Value) → List (Fault ProtocolError)
  | [] => []
  | (key, value) :: members =>
      textFaults keyError key ++ treeFaults depth (path ++ [key]) value ++
        membersFaults depth path members

end

mutual

/-- A tree is refused for its first fault. -/
theorem validateTree_verdict (depth : Nat) (path : List Text) (value : Value) :
    validateTree depth path value = verdict (treeFaults depth path value) := by
  rw [validateTree.eq_def, treeFaults.eq_def, verdict_append, require_verdict]
  refine congrArg _ (funext fun _ => ?_)
  cases value with
  | null | bool | int => rfl
  | str value => exact boundedText_verdict stringError value
  | float value => exact require_verdict _ numberError
  | list items =>
      rw [verdict_append, ← require_verdict]
      exact congrArg _ (funext fun _ => validateItems_verdict _ _ items)
  | dict members =>
      rw [verdict_append, ← require_verdict]
      exact congrArg _ (funext fun _ => validateMembers_verdict _ path members)

theorem validateItems_verdict (depth : Nat) (path : List Text) (items : List Value) :
    validateItems depth path items = verdict (itemsFaults depth path items) := by
  cases items with
  | nil => rfl
  | cons item items =>
      rw [validateItems, itemsFaults, verdict_append, validateTree_verdict]
      exact congrArg _ (funext fun _ => validateItems_verdict depth path items)

theorem validateMembers_verdict (depth : Nat) (path : List Text)
    (members : List (Text × Value)) :
    validateMembers depth path members = verdict (membersFaults depth path members) := by
  cases members with
  | nil => rfl
  | cons member members =>
      obtain ⟨key, value⟩ := member
      rw [validateMembers, membersFaults, List.append_assoc, verdict_append, verdict_append,
        boundedText_verdict]
      refine congrArg _ (funext fun _ => ?_)
      rw [validateTree_verdict]
      exact congrArg _ (funext fun _ => validateMembers_verdict depth path members)

end

/-! ### Responses -/

/-- A value that stands somewhere in a tree without faults. -/
def Clean (value : Value) : Prop := ∃ depth path, treeFaults depth path value = []

theorem encodable_of_textFaults {ε : Type} {error : ε} {value : Text}
    (clean : textFaults error value = []) : value.encodable := by
  unfold textFaults encodedLength at clean
  split_ifs at clean with encodable
  exact encodable

theorem Clean.encodable {value : Text} (clean : Clean (.str value)) : value.encodable := by
  obtain ⟨depth, path, clean⟩ := clean
  rw [treeFaults.eq_def] at clean
  exact encodable_of_textFaults (List.append_eq_nil_iff.mp clean).2

theorem clean_of_membersFaults {depth : Nat} {path : List Text} {members : Members}
    (clean : membersFaults depth path members = []) {key : Text} {value : Value}
    (inside : (key, value) ∈ members) : Clean value := by
  induction members with
  | nil => cases inside
  | cons member members ih =>
      simp only [membersFaults, List.append_eq_nil_iff] at clean
      rcases List.mem_cons.mp inside with rfl | inside
      · exact ⟨_, _, clean.1.2⟩
      · exact ih clean.2 inside

theorem Clean.member {members : Members} (clean : Clean (.dict members)) {key : Text}
    {value : Value} (inside : (key, value) ∈ members) : Clean value := by
  obtain ⟨depth, path, clean⟩ := clean
  rw [treeFaults.eq_def] at clean
  exact clean_of_membersFaults
    (List.append_eq_nil_iff.mp (List.append_eq_nil_iff.mp clean).2).2 inside

theorem handled_boundedText {ε : Type} {error : ε} {value : Text} (encodable : value.encodable) :
    Handled (boundedText error value) := by
  simp [boundedText, handled_bind, encodable]

theorem handled_readError {value : Value} (clean : Clean value) : Handled (readError value) := by
  simp only [readError, handled_bind, handled_demand, demand_ok, true_and, handled_pure,
    implies_true, and_true]
  intro error found
  have inside := Value.of_asRecord found ▸ clean
  have field (name : String) (known : name ∈ ["code", "message"]) {value : Text}
      (same : (error.get name known).asStr = some value) : value.encodable := by
    refine Clean.encodable (inside.member (Value.asStr_eq_some.mp same ▸ error.get_mem known))
  intro code here
  refine ⟨handled_boundedText (field "code" _ (Option.filter_eq_some_iff.mp here).1), ?_⟩
  exact fun _ _ message there => handled_boundedText (field "message" _ there)

theorem handled_readResponse {value : Value} (clean : Clean value) :
    Handled (readResponse value) := by
  simp only [readResponse, readResponseId, readToken, handled_bind, handled_demand, demand_ok,
    handled_require, true_and]
  intro members found _ _ _ _ _ _ _ _ _ _
  cases Value.asDict_eq_some.mp found
  split
  · simp
  · rename_i error _ there
    have inside := handled_readError (clean.member (Members.mem_of_get? there))
    simp [handled_bind, inside]
  · simp

/-! ### Payloads -/

section Decoder

variable {decode : List ControlFraming.Byte → Option Value}

variable (decode) in
/-- The first fault of the tree that the payload decodes to is no lone surrogate. -/
def Plain (payload : List ControlFraming.Byte) : Prop :=
  ControlFraming.framePrefix.length + payload.length + 1 ≤ Host.maxMachineFrameBytes →
    ∀ value, decode payload = some value → Covered (treeFaults 0 [] value)

theorem handled_parseResponse {payload : List ControlFraming.Byte} :
    Handled (parseResponse decode payload) ↔ Plain decode payload := by
  simp only [parseResponse, handled_bind, handled_require, handled_demand, true_and, require_ok,
    demand_ok, validateTree_verdict, handled_verdict, verdict_ok, Plain]
  constructor
  · exact fun handled short value decoded => (handled () short value decoded).1
  · exact fun plain _ short value decoded =>
      ⟨plain short value decoded, fun _ clean => handled_readResponse ⟨0, [], clean⟩⟩

theorem handled_recordUnmatched (call : Call) (progress : Progress) :
    Handled (recordUnmatched call progress) := by
  simp [recordUnmatched]

theorem handled_onResponse (call : Call) (progress : Progress) (response : Response) :
    Handled (onResponse call progress response) := by
  have lost (progress : Progress) (error : RemoteErrorObject) (message : String) :
      Handled (recordError call progress error message) := by
    simp [recordError, handled_bind, handled_recordUnmatched]
  unfold onResponse
  split_ifs
  all_goals try split
  all_goals simp [handled_recordUnmatched, lost]

/-- A frame is classified exactly when its payload is plain. -/
theorem handled_onEvent {call : Call} {progress : Progress} {event : Host.FrameEvent} :
    Handled (onEvent decode call progress event) ↔
      ∀ payload, event = .machineFrame payload → Plain decode payload := by
  cases event with
  | machineFrameIssue reason =>
      exact iff_of_true (handled_recordUnmatched call progress) fun _ same => by cases same
  | machineFrame payload =>
      simp only [Host.FrameEvent.machineFrame.injEq, forall_eq', ← handled_parseResponse, onEvent]
      cases parsed : parseResponse decode payload with
      | ok response =>
          exact iff_of_true (handled_onResponse call progress response) (handled_ok response)
      | error raised =>
          cases raised with
          | own error =>
              exact iff_of_true (handled_recordUnmatched call progress) (handled_refuse error)
          | keyError | typeError | unicodeEncodeError =>
              exact iff_of_false (fun handled => by simpa using handled _ rfl)
                (fun handled => by simpa using handled _ rfl)

/-- Every frame that the loop comes to is plain. -/
def FramesPlain (decode : List ControlFraming.Byte → Option Value) (call : Call)
    (progress : Progress) (events : List Host.FrameEvent) : Prop :=
  ∀ before payload after reached, events = before ++ .machineFrame payload :: after →
    waitForResponse decode call before progress = .ok (none, reached) → Plain decode payload

theorem handled_waitForResponse {call : Call} {events : List Host.FrameEvent}
    {progress : Progress} : Handled (waitForResponse decode call events progress) ↔
      FramesPlain decode call progress events := by
  induction events generalizing progress with
  | nil =>
      refine iff_of_true (handled_ok _) fun before payload after reached split => ?_
      simp at split
  | cons event events ih =>
      rw [waitForResponse, handled_bind, handled_onEvent]
      constructor
      · rintro ⟨here, later⟩ before payload after reached split passed
        cases before with
        | nil => exact here payload (List.cons.inj split).1
        | cons first before =>
            obtain ⟨rfl, rest⟩ := List.cons.inj split
            obtain ⟨step, classified, passed⟩ := bind_ok.mp passed
            cases step with
            | inl next => exact ih.mp (later _ classified) before payload after reached rest passed
            | inr response => cases passed
      · intro plain
        refine ⟨fun payload same => plain [] payload events progress (by rw [same]; rfl) rfl,
          fun step classified => ?_⟩
        cases step with
        | inl next =>
            refine ih.mpr fun before payload after reached split passed => ?_
            refine plain (event :: before) payload after reached (by rw [split]; rfl) ?_
            exact bind_ok.mpr ⟨_, classified, passed⟩
        | inr response => exact handled_ok _

end Decoder

end HidBot.HostProtocol
