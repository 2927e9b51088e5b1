import HidBot.Host.Sequence
import HidBot.Sequence.Held
import HidBot.Text.Decimal
import Mathlib.Data.List.TakeWhile
import Mathlib.Data.Set.Card

/-!
# One language

What the host can say and what the firmware can read are both described by the tokens
below. A token has a text, which the host writes and the firmware reads, an operation
of the host and an operation of the firmware.
-/

namespace HidBot.Sequence

open Text Wire
open Host (MouseButton)

/-! ### Tokens -/

inductive Action where
  | press
  | release
  deriving DecidableEq

/-- A token within the bounds of its opcode. -/
inductive Token where
  | defaultDelay (milliseconds : ℕ) (within : milliseconds ≤ maximumDefaultDelayMs)
  | wait (milliseconds : ℕ) (within : milliseconds ≤ maximumWaitMs)
  | key (action : Action) (usage : UInt16)
      (known : ordinaryUsage usage = true ∨ modifierUsage usage = true)
  | mouse (action : Action) (button : MouseButton)

def Action.letter : Action → Char
  | .press => 'p'
  | .release => 'r'

def buttonLetter : MouseButton → Char
  | .left => 'L'
  | .right => 'R'
  | .middle => 'M'
  | .backward => 'B'
  | .forward => 'F'

namespace Token

/-- The text of a token. -/
def code : Token → List Char
  | defaultDelay milliseconds _ => 'd' :: Nat.toDigits 10 milliseconds
  | wait milliseconds _ => 'w' :: Nat.toDigits 10 milliseconds
  | key action usage _ => 'k' :: action.letter :: Nat.toDigits 10 usage.toNat
  | mouse action button => ['m', action.letter, buttonLetter button]

/-- The operation that the firmware executes for it. -/
def operation : Token → Operation
  | defaultDelay milliseconds _ => ⟨.defaultDelay, UInt16.ofNat milliseconds⟩
  | wait milliseconds _ => ⟨.wait, UInt16.ofNat milliseconds⟩
  | key .press usage _ => ⟨.keyPress, usage⟩
  | key .release usage _ => ⟨.keyRelease, usage⟩
  | mouse .press button => ⟨.mousePress, (buttonBit (buttonLetter button)).toUInt16⟩
  | mouse .release button => ⟨.mouseRelease, (buttonBit (buttonLetter button)).toUInt16⟩

/-- The operation of the host that says it. -/
def host : Token → Host.Sequence.Operation
  | defaultDelay milliseconds _ => ⟨"d", .int milliseconds⟩
  | wait milliseconds _ => ⟨"w", .int milliseconds⟩
  | key .press usage _ => ⟨"kp", .int usage.toNat⟩
  | key .release usage _ => ⟨"kr", .int usage.toNat⟩
  | mouse .press button => ⟨"mp", .button button⟩
  | mouse .release button => ⟨"mr", .button button⟩

end Token

/-! ### Numbers -/

theorem isDigit_iff (character : Char) :
    character.isDigit = true ↔ ¬(character < '0' ∨ '9' < character) := by
  simp [Char.isDigit, Char.lt_def, UInt32.not_lt]

theorem parseDigits_iff {maximum parsed value : ℕ} {digits : List Char}
    (within : parsed ≤ maximum) :
    parseDigits maximum parsed digits = some value ↔
      (∀ digit ∈ digits, digit.isDigit = true) ∧ Nat.ofDigitChars 10 digits parsed = value ∧
        value ≤ maximum := by
  induction digits generalizing parsed with
  | nil =>
      simp only [parseDigits, Option.some.injEq, List.not_mem_nil, false_implies, implies_true,
        Nat.ofDigitChars_nil, true_and]
      exact ⟨fun same => ⟨same, same ▸ within⟩, fun same => same.1⟩
  | cons digit rest ih =>
      have next : 10 * parsed + (digit.toNat - '0'.toNat) =
          parsed * 10 + (digit.toNat - '0'.toNat) := by rw [Nat.mul_comm]
      rw [parseDigits, List.forall_mem_cons, isDigit_iff, Nat.ofDigitChars_cons, next]
      by_cases decimal : digit < '0' ∨ '9' < digit
      · rw [if_pos decimal]
        refine ⟨fun read => ?_, fun read => absurd decimal read.1.1⟩
        cases read
      rw [if_neg decimal]
      by_cases inside : parsed * 10 + (digit.toNat - '0'.toNat) ≤ maximum
      · rw [if_neg (Nat.not_lt.mpr inside), ih inside]
        simp only [decimal, not_false_eq_true, true_and]
      · rw [if_pos (Nat.lt_of_not_le inside)]
        refine ⟨fun read => ?_, fun read => absurd ?_ inside⟩
        · cases read
        · exact Nat.le_trans (read.2.1 ▸ le_ofDigitChars rest _) read.2.2

theorem toNat_ofNat {value maximum : ℕ} (within : value ≤ maximum) (small : maximum < 10 ^ 4) :
    (UInt16.ofNat value).toNat = value :=
  UInt16.toNat_ofNat_of_lt (Nat.lt_of_le_of_lt within (Nat.lt_trans small (by decide)))

/-- A number is read from its canonical numeral only. -/
theorem parseNumber_iff {maximum : ℕ} {text : List Char} {value : UInt16}
    (small : maximum < 10 ^ 4) :
    parseNumber text maximum = some value ↔
      text = Nat.toDigits 10 value.toNat ∧ value.toNat ≤ maximum := by
  unfold parseNumber
  constructor
  · intro parsed
    obtain ⟨shape, parsed⟩ := Option.ite_none_left_eq_some.mp parsed
    obtain ⟨number, digits, rfl⟩ := Option.map_eq_some_iff.mp parsed
    obtain ⟨decimal, same, within⟩ := (parseDigits_iff (Nat.zero_le _)).mp digits
    have canonical : Canonical text :=
      ⟨fun empty => shape (.inl empty), decimal, fun longer zero => shape (.inr (.inr ⟨longer, zero⟩))⟩
    rw [toNat_ofNat within small]
    exact ⟨canonical_iff.mp ⟨canonical, same⟩, within⟩
  · rintro ⟨numeral, within⟩
    obtain ⟨canonical, same⟩ := canonical_iff.mpr numeral
    have short : text.length ≤ 4 := by
      rw [numeral, Nat.length_toDigits_le_iff (by decide) (by decide)]
      exact Nat.lt_of_le_of_lt within small
    rw [if_neg, (parseDigits_iff (Nat.zero_le _)).mpr ⟨canonical.decimal, same, within⟩]
    · rw [Option.map_some, UInt16.ofNat_toNat]
    · rintro (empty | long | ⟨longer, zero⟩)
      · exact canonical.nonempty empty
      · exact absurd short (Nat.not_le.mpr long)
      · exact canonical.leading longer zero

/-! ### One token -/

theorem usage_le {usage : UInt16} (known : ordinaryUsage usage = true ∨ modifierUsage usage = true) :
    usage.toNat ≤ 231 := by
  simp only [ordinaryUsage, modifierUsage, Bool.or_eq_true, Bool.and_eq_true, decide_eq_true_eq,
    UInt16.le_iff_toNat_le, UInt16.toNat_ofNat] at known
  omega

theorem parseKey_iff {kind : OperationKind} {digits : List Char} {operation : Operation} :
    parseKey kind digits = some operation ↔ ∃ usage : UInt16,
      (ordinaryUsage usage = true ∨ modifierUsage usage = true) ∧
        digits = Nat.toDigits 10 usage.toNat ∧ operation = ⟨kind, usage⟩ := by
  unfold parseKey
  constructor
  · intro parsed
    obtain ⟨-, parsed⟩ := Option.ite_none_left_eq_some.mp parsed
    obtain ⟨usage, number, rest⟩ := Option.bind_eq_some_iff.mp parsed
    obtain ⟨known, same⟩ := Option.ite_none_right_eq_some.mp rest
    obtain ⟨numeral, -⟩ := (parseNumber_iff (by decide)).mp number
    exact ⟨usage, by simpa using known, numeral, (Option.some.inj same).symm⟩
  · rintro ⟨usage, known, rfl, rfl⟩
    have within := usage_le known
    have short : (Nat.toDigits 10 usage.toNat).length ≤ 3 :=
      (Nat.length_toDigits_le_iff (by decide) (by decide)).mpr (Nat.lt_of_le_of_lt within (by decide))
    rw [if_neg (Nat.not_lt.mpr short), (parseNumber_iff (by decide)).mpr ⟨rfl, within⟩]
    simp [known]

theorem parseButton_iff {kind : OperationKind} {letter : Char} {operation : Operation} :
    parseButton kind letter = some operation ↔ ∃ button : MouseButton,
      letter = buttonLetter button ∧ operation = ⟨kind, (buttonBit letter).toUInt16⟩ := by
  have letters (known : buttonBit letter ≠ 0) : ∃ button, letter = buttonLetter button := by
    unfold buttonBit at known
    split at known
    · exact ⟨.left, rfl⟩
    · exact ⟨.right, rfl⟩
    · exact ⟨.middle, rfl⟩
    · exact ⟨.backward, rfl⟩
    · exact ⟨.forward, rfl⟩
    · exact absurd rfl known
  unfold parseButton
  constructor
  · intro parsed
    obtain ⟨known, same⟩ := Option.ite_none_left_eq_some.mp parsed
    obtain ⟨button, letter⟩ := letters known
    exact ⟨button, letter, (Option.some.inj same).symm⟩
  · rintro ⟨button, rfl, rfl⟩
    cases button <;> rfl

theorem parseToken_key {action : Action} {digits : List Char} (numeral : digits ≠ []) :
    parseToken ('k' :: action.letter :: digits) =
      parseKey (match action with | .press => .keyPress | .release => .keyRelease) digits := by
  obtain ⟨digit, rest, rfl⟩ := List.exists_cons_of_ne_nil numeral
  cases action <;> rfl

theorem parseNumber_toDigits {value maximum : ℕ} (within : value ≤ maximum)
    (small : maximum < 10 ^ 4) :
    parseNumber (Nat.toDigits 10 value) maximum = some (UInt16.ofNat value) := by
  rw [parseNumber_iff small, toNat_ofNat within small]
  exact ⟨rfl, within⟩

theorem toList_toString (value : ℕ) : (toString (value : Int)).toList = Nat.toDigits 10 value :=
  Nat.toList_repr

namespace Token

/-- The firmware reads the text of a token as its operation. -/
theorem parseToken_code (token : Token) : parseToken token.code = some token.operation := by
  cases token with
  | defaultDelay milliseconds within =>
      simp [code, parseToken, parseNumber_toDigits within (by decide), operation]
  | wait milliseconds within =>
      simp [code, parseToken, parseNumber_toDigits within (by decide), operation]
  | key action usage known =>
      rw [code, parseToken_key Nat.toDigits_ne_nil, parseKey_iff.mpr ⟨usage, known, rfl, rfl⟩]
      cases action <;> rfl
  | mouse action button =>
      cases action
      · exact parseButton_iff.mpr ⟨button, rfl, rfl⟩
      · exact parseButton_iff.mpr ⟨button, rfl, rfl⟩

/-- The firmware reads texts of tokens only. -/
theorem of_parseToken {text : List Char} {read : Operation} (parsed : parseToken text = some read) :
    ∃ token : Token, token.code = text ∧ token.operation = read := by
  unfold parseToken at parsed
  split at parsed
  · obtain ⟨value, number, same⟩ := Option.bind_eq_some_iff.mp parsed
    obtain ⟨rfl, within⟩ := (parseNumber_iff (by decide)).mp number
    cases same
    exact ⟨.defaultDelay value.toNat within, rfl, by simp [operation]⟩
  · obtain ⟨value, number, same⟩ := Option.bind_eq_some_iff.mp parsed
    obtain ⟨rfl, within⟩ := (parseNumber_iff (by decide)).mp number
    cases same
    exact ⟨.wait value.toNat within, rfl, by simp [operation]⟩
  · obtain ⟨usage, known, numeral, rfl⟩ := parseKey_iff.mp parsed
    exact ⟨.key .press usage known, by simp [code, Action.letter, numeral], rfl⟩
  · obtain ⟨usage, known, numeral, rfl⟩ := parseKey_iff.mp parsed
    exact ⟨.key .release usage known, by simp [code, Action.letter, numeral], rfl⟩
  · obtain ⟨button, rfl, rfl⟩ := parseButton_iff.mp parsed
    exact ⟨.mouse .press button, rfl, rfl⟩
  · obtain ⟨button, rfl, rfl⟩ := parseButton_iff.mp parsed
    exact ⟨.mouse .release button, rfl, rfl⟩
  · cases parsed

/-- The host writes the text of a token. -/
theorem encode_host (token : Token) : token.host.encode.toList = token.code := by
  cases token with
  | defaultDelay milliseconds within =>
      simp only [host, Host.Sequence.Operation.encode, String.toList_append, toList_toString]
      rfl
  | wait milliseconds within =>
      simp only [host, Host.Sequence.Operation.encode, String.toList_append, toList_toString]
      rfl
  | key action usage known =>
      cases action <;>
        simp only [host, Host.Sequence.Operation.encode, String.toList_append, toList_toString] <;> rfl
  | mouse action button => cases action <;> cases button <;> rfl

theorem code_ne_nil (token : Token) : token.code ≠ [] := by cases token <;> exact List.cons_ne_nil _ _

theorem separator_not_mem (token : Token) : ';' ∉ token.code := by
  have digits (value : ℕ) : ';' ∉ Nat.toDigits 10 value := fun member =>
    absurd ((canonical_toDigits value).decimal _ member) (by decide)
  cases token with
  | defaultDelay milliseconds within => simp [code, digits]
  | wait milliseconds within => simp [code, digits]
  | key action usage known => cases action <;> simp [code, Action.letter, digits]
  | mouse action button => cases action <;> cases button <;> decide

end Token

/-! ### Texts -/

/-- The text of several tokens. -/
def text (tokens : List Token) : List Char := [';'].intercalate (tokens.map Token.code)

theorem text_cons (token : Token) {rest : List Token} (more : rest ≠ []) :
    text (token :: rest) = token.code ++ ';' :: text rest := by
  rw [text, List.map_cons, List.intercalate_cons_of_ne_nil (by simpa using more), List.append_assoc]
  rfl

theorem text_ne_nil {tokens : List Token} (nonempty : tokens ≠ []) : text tokens ≠ [] := by
  obtain ⟨token, rest, rfl⟩ := List.exists_cons_of_ne_nil nonempty
  by_cases more : rest = []
  · simpa [more, text] using token.code_ne_nil
  · simp [text_cons token more]

theorem Token.before_separator (token : Token) :
    ∀ character ∈ token.code, decide (character ≠ ';') = true := by
  intro character member
  refine decide_eq_true fun separator => token.separator_not_mem ?_
  rwa [← separator]

/-- The firmware reads the text of tokens that it can apply. -/
theorem parseTokens_text {room : ℕ} {state : HidState} {tokens : List Token}
    (nonempty : tokens ≠ []) (fits : tokens.length ≤ room)
    (admitted : Admitted state (tokens.map Token.operation)) :
    parseTokens room state (text tokens) = some (tokens.map Token.operation) := by
  induction tokens generalizing room state with
  | nil => exact absurd rfl nonempty
  | cons token rest ih =>
      obtain ⟨-, next, applied, admitted⟩ := admitted
      cases room with
      | zero => exact absurd fits (Nat.not_succ_le_zero _)
      | succ room =>
          by_cases more : rest = []
          · subst more
            have here : text [token] = token.code := by simp [text]
            simp only [parseTokens, here, List.takeWhile_eq_self_iff.mpr token.before_separator,
              List.dropWhile_eq_nil_iff.mpr token.before_separator, token.parseToken_code,
              Option.bind_eq_bind, Option.bind_some, applied]
            rfl
          · have later := ih more (Nat.le_of_succ_le_succ fits) admitted
            obtain ⟨character, others, same⟩ := List.exists_cons_of_ne_nil (text_ne_nil more)
            rw [same] at later
            simp only [parseTokens, text_cons token more, same,
              List.takeWhile_append_of_pos token.before_separator,
              List.dropWhile_append_of_pos token.before_separator]
            simp [token.parseToken_code, applied, later]

/-- The firmware reads texts of tokens only. -/
theorem text_of_parseTokens {room : ℕ} {state : HidState} {code : List Char}
    {operations : List Operation} (parsed : parseTokens room state code = some operations) :
    ∃ tokens, text tokens = code ∧ tokens.map Token.operation = operations := by
  induction room generalizing state code operations with
  | zero => cases parsed
  | succ room ih =>
      simp only [parseTokens, Option.bind_eq_bind, Option.bind_eq_some_iff] at parsed
      obtain ⟨operation, parsed, next, -, rest⟩ := parsed
      obtain ⟨token, same, rfl⟩ := Token.of_parseToken parsed
      have whole : code.takeWhile (· ≠ ';') ++ code.dropWhile (· ≠ ';') = code :=
        List.takeWhile_append_dropWhile
      have separator := List.head?_dropWhile_not (fun c => decide (c ≠ ';')) code
      split at rest
      · rename_i ended
        rw [ended, List.append_nil] at whole
        cases rest
        exact ⟨[token], (List.intercalate_singleton.trans same).trans whole, rfl⟩
      · cases rest
      · rename_i character rest' _ after
        rw [after] at whole separator
        obtain ⟨later, parsed, joined⟩ := Option.bind_eq_some_iff.mp rest
        cases joined
        obtain ⟨tokens, read, rfl⟩ := ih parsed
        have more : tokens ≠ [] := fun empty => (parseTokens_length parsed).1 (by simp [empty])
        have here : character = ';' := by simpa using separator
        refine ⟨token :: tokens, ?_, rfl⟩
        rw [here] at whole
        rw [text_cons token more, same, read, whole]

/-! ### The host's checks -/

theorem Token.encodeOperations_host (tokens : List Token) :
    (Host.Sequence.encodeOperations (tokens.map Token.host)).toList = text tokens := by
  rw [Host.Sequence.encodeOperations, String.toList_intercalate, List.map_map, List.map_map]
  refine congrArg [';'].intercalate (List.map_congr_left fun token _ => token.encode_host)

theorem scheduledDuration_cons (defaultDelay duration : ℕ) (operation : Operation)
    (rest : List Operation) :
    scheduledDuration defaultDelay duration (operation :: rest) =
      if maximumScheduledDurationMs < duration + operation.delay rest.isEmpty defaultDelay then none
      else scheduledDuration
        (if operation.kind = .defaultDelay then operation.value.toNat else defaultDelay)
        (duration + operation.delay rest.isEmpty defaultDelay) rest := by
  have delay : operation.kind.isHid = true → operation.kind ≠ .defaultDelay := by
    intro hid kind
    rw [kind] at hid
    cases hid
  have same : (if operation.kind = .wait then duration + operation.value.toNat
      else if operation.kind.isHid = true ∧ rest ≠ [] then duration +
        (if operation.kind = .defaultDelay then operation.value.toNat else defaultDelay)
      else duration) = duration + operation.delay rest.isEmpty defaultDelay := by
    unfold Operation.delay
    by_cases wait : operation.kind = .wait
    · simp [wait]
    by_cases hid : operation.kind.isHid = true ∧ rest ≠ []
    · simp [wait, hid, delay hid.1]
    · rw [if_neg wait, if_neg hid, if_neg wait, if_neg (by simpa using hid), Nat.add_zero]
  rw [scheduledDuration, same]

open Host.Sequence (Operand Schedule validateInt validateUsage validateButton walk postInit)

theorem usage_iff (usage : UInt16) :
    ordinaryUsage usage = true ∨ modifierUsage usage = true ↔
      (4 ≤ (usage.toNat : Int) ∧ (usage.toNat : Int) ≤ 164) ∨
        (176 ≤ (usage.toNat : Int) ∧ (usage.toNat : Int) ≤ 221) ∨
          (224 ≤ (usage.toNat : Int) ∧ (usage.toNat : Int) ≤ 231) := by
  simp only [ordinaryUsage, modifierUsage, Bool.or_eq_true, Bool.and_eq_true, decide_eq_true_eq,
    UInt16.le_iff_toNat_le, UInt16.toNat_ofNat]
  omega

theorem validateInt_iff {high value : Int} {field : String} {operand : Operand} :
    validateInt 0 high field operand = .ok value ↔
      operand = .int value ∧ 0 ≤ value ∧ value ≤ high := by
  cases operand with
  | button button => exact ⟨nofun, fun same => nomatch same.1⟩
  | int other =>
      rw [validateInt, Operand.int.injEq]
      by_cases within : 0 ≤ other ∧ other ≤ high
      · rw [if_pos within, Except.ok.injEq]
        exact ⟨fun same => ⟨same, same ▸ within⟩, fun same => same.1⟩
      · rw [if_neg within]
        exact ⟨nofun, fun ⟨same, bounds⟩ => absurd (same ▸ bounds) within⟩

theorem validateUsage_iff {operand : Operand} :
    validateUsage operand = .ok () ↔ ∃ usage : UInt16,
      (ordinaryUsage usage = true ∨ modifierUsage usage = true) ∧ operand = .int usage.toNat := by
  cases operand with
  | button button => exact ⟨nofun, fun ⟨_, _, same⟩ => nomatch same⟩
  | int value =>
      rw [validateUsage, require_ok]
      constructor
      · intro known
        have small : value.toNat ≤ 231 := by omega
        have fits : ((UInt16.ofNat value.toNat).toNat : Int) = value := by
          rw [toNat_ofNat small (by decide)]
          omega
        exact ⟨UInt16.ofNat value.toNat, (usage_iff _).mpr (by rwa [fits]), by rw [fits]⟩
      · intro ⟨usage, known, same⟩
        rw [Operand.int.inj same]
        exact (usage_iff usage).mp known

/-- The host takes a token, and schedules the wait that the firmware schedules. -/
theorem Token.validate_host (token : Token) (isLast : Bool) (defaultDelay duration : ℕ) :
    token.host.validate isLast ⟨defaultDelay, duration⟩ = .ok ⟨
      (if token.operation.kind = .defaultDelay then token.operation.value.toNat
        else defaultDelay : ℕ),
      (duration + token.operation.delay isLast defaultDelay : ℕ)⟩ := by
  have reported : Schedule.report ⟨defaultDelay, duration⟩ isLast =
      ⟨defaultDelay, (duration + if isLast = false then defaultDelay else 0 : ℕ)⟩ := by
    cases isLast <;> simp [Schedule.report]
  cases token with
  | defaultDelay milliseconds within =>
      have taken : validateInt 0 Host.maxDefaultDelayMs "default delay" (.int milliseconds) =
          .ok (milliseconds : Int) :=
        validateInt_iff.mpr ⟨rfl, Int.natCast_nonneg _, Int.ofNat_le.mpr within⟩
      have fits : (UInt16.ofNat milliseconds).toNat = milliseconds :=
        toNat_ofNat within (by decide)
      simp only [Token.host, Host.Sequence.Operation.validate, ↓reduceIte, taken, Token.operation,
        fits]
      rfl
  | wait milliseconds within =>
      have taken : validateInt 0 Host.maxWaitMs "explicit wait" (.int milliseconds) =
          .ok (milliseconds : Int) :=
        validateInt_iff.mpr ⟨rfl, Int.natCast_nonneg _, Int.ofNat_le.mpr within⟩
      have fits : (UInt16.ofNat milliseconds).toNat = milliseconds :=
        toNat_ofNat within (by decide)
      simp only [Token.host, Host.Sequence.Operation.validate, ↓reduceIte, taken, Token.operation,
        Operation.delay, fits]
      rfl
  | key action usage known =>
      have taken : validateUsage (.int usage.toNat) = .ok () :=
        validateUsage_iff.mpr ⟨usage, known, rfl⟩
      cases action <;> simp [Token.host, Host.Sequence.Operation.validate, taken, Token.operation,
        Operation.delay, OperationKind.isHid, reported]
  | mouse action button =>
      have taken : validateButton (.button button) = .ok () := rfl
      cases action <;> simp [Token.host, Host.Sequence.Operation.validate, taken, Token.operation,
        Operation.delay, OperationKind.isHid, reported]

/-- The host takes tokens only. -/
theorem Token.of_validate {said : Host.Sequence.Operation} {isLast : Bool} {schedule next : Schedule}
    (valid : said.validate isLast schedule = .ok next) : ∃ token : Token, token.host = said := by
  obtain ⟨opcode, value⟩ := said
  simp only [Host.Sequence.Operation.validate] at valid
  split at valid
  · rename_i same
    obtain ⟨delay, taken, -⟩ := bind_ok.mp valid
    obtain ⟨rfl, positive, within⟩ := validateInt_iff.mp taken
    obtain ⟨milliseconds, rfl⟩ := Int.eq_ofNat_of_zero_le positive
    exact ⟨.defaultDelay milliseconds (Int.ofNat_le.mp within), by rw [same]; rfl⟩
  split at valid
  · rename_i same
    obtain ⟨wait, taken, -⟩ := bind_ok.mp valid
    obtain ⟨rfl, positive, within⟩ := validateInt_iff.mp taken
    obtain ⟨milliseconds, rfl⟩ := Int.eq_ofNat_of_zero_le positive
    exact ⟨.wait milliseconds (Int.ofNat_le.mp within), by rw [same]; rfl⟩
  split at valid
  · rename_i either
    obtain ⟨_, taken, -⟩ := bind_ok.mp valid
    obtain ⟨usage, known, rfl⟩ := validateUsage_iff.mp taken
    rcases either with rfl | rfl
    · exact ⟨.key .press usage known, rfl⟩
    · exact ⟨.key .release usage known, rfl⟩
  split at valid
  · rename_i either
    obtain ⟨_, taken, -⟩ := bind_ok.mp valid
    cases value with
    | int value => cases taken
    | button button =>
        rcases either with rfl | rfl
        · exact ⟨.mouse .press button, rfl⟩
        · exact ⟨.mouse .release button, rfl⟩
  · cases valid

/-- The host walks over tokens only. -/
theorem Token.of_walk {said : List Host.Sequence.Operation} {schedule : Schedule} {total : Int}
    (valid : walk schedule said = .ok total) :
    ∃ tokens : List Token, tokens.map Token.host = said := by
  induction said generalizing schedule with
  | nil => exact ⟨[], rfl⟩
  | cons operation rest ih =>
      obtain ⟨next, here, checked⟩ := bind_ok.mp valid
      obtain ⟨_, -, later⟩ := bind_ok.mp checked
      obtain ⟨token, rfl⟩ := Token.of_validate here
      obtain ⟨tokens, rfl⟩ := ih later
      exact ⟨token :: tokens, rfl⟩

/-- Both sides compute the same duration, and refuse the same. -/
theorem Token.walk_host (tokens : List Token) (defaultDelay duration : ℕ) {total : Int} :
    walk ⟨defaultDelay, duration⟩ (tokens.map Token.host) = .ok total ↔ ∃ milliseconds : ℕ,
      scheduledDuration defaultDelay duration (tokens.map Token.operation) = some milliseconds ∧
        total = milliseconds := by
  induction tokens generalizing defaultDelay duration with
  | nil =>
      change Except.ok (duration : Int) = .ok total ↔ _
      rw [Except.ok.injEq]
      refine ⟨fun same => ⟨duration, rfl, same.symm⟩, ?_⟩
      rintro ⟨milliseconds, same, rfl⟩
      cases same
      rfl
  | cons token rest ih =>
      have last : (rest.map Token.host).isEmpty = (rest.map Token.operation).isEmpty := by simp
      rw [List.map_cons, List.map_cons, walk, token.validate_host, scheduledDuration_cons, ← last]
      generalize token.operation.delay _ defaultDelay = delay
      change (require ((duration + delay : ℕ) ≤ Host.maxScheduledDurationMs) _ >>= _) = _ ↔ _
      rw [bind_ok]
      by_cases within : duration + delay ≤ maximumScheduledDurationMs
      · rw [if_neg (Nat.not_lt.mpr within), ← ih]
        exact ⟨fun ⟨_, _, later⟩ => later, fun later => ⟨(), require_ok.mpr (Int.ofNat_le.mpr within), later⟩⟩
      · rw [if_pos (Nat.lt_of_not_le within)]
        exact ⟨fun ⟨_, here, _⟩ => absurd (Int.ofNat_le.mp (require_ok.mp here)) within, nofun⟩

/-! ### Six keys -/

/-- The ordinary keys among the inputs held. -/
def keysHeld (held : Set Input) : Set UInt8 := {usage | .key usage ∈ held}

/-- From this state, the operations never hold more than six ordinary keys at once. -/
def SixKeys (state : HidState) (operations : List Operation) : Prop :=
  ∀ before, before <+: operations → (keysHeld (heldAfter state.held before)).encard ≤ 6

theorem SixKeys.first {state : HidState} {operation : Operation} {rest : List Operation}
    (six : SixKeys state (operation :: rest)) :
    (keysHeld (operation.hold state.held)).encard ≤ 6 :=
  six [operation] ⟨rest, rfl⟩

theorem SixKeys.later {state next : HidState} {operation : Operation} {rest : List Operation}
    (six : SixKeys state (operation :: rest)) (held : next.held = operation.hold state.held) :
    SixKeys next rest := by
  intro before here
  have whole := six (operation :: before) (List.cons_prefix_cons.mpr ⟨rfl, here⟩)
  rwa [heldAfter, List.foldl_cons, ← held] at whole

/-- A key is pressed in a free slot, or held already. -/
theorem Padded.press_six {keys : List UInt8} {slots : Vector UInt8 6} {usage : UInt8}
    (padded : Padded keys slots) (used : usage ≠ 0) (six : {key | key ∈ usage :: keys}.encard ≤ 6) :
    ∃ after, pressKey usage slots = some after := by
  by_cases held : usage ∈ keys
  · exact ⟨slots, padded.press_held used held⟩
  by_cases room : keys.length < 6
  · obtain ⟨after, pressed, -⟩ := padded.press_room used held room
    exact ⟨after, pressed⟩
  · have distinct : (usage :: keys).Nodup :=
      List.nodup_cons.mpr ⟨held, padded.sorted.imp UInt8.ne_of_lt⟩
    have seven : {key | key ∈ usage :: keys}.encard = (keys.length + 1 : ℕ) := by
      rw [← List.coe_toFinset, Set.encard_coe_eq_coe_finsetCard, List.toFinset_card_of_nodup distinct,
        List.length_cons]
    rw [seven] at six
    exact absurd (Nat.le_of_succ_le_succ (Nat.cast_le.mp six)) (by omega)

theorem applies_of_six {state : HidState} {operation : Operation} (known : operation.Known)
    (ordered : state.Ordered) (six : (keysHeld (operation.hold state.held)).encard ≤ 6) :
    ∃ next, applyTransition operation state = some next := by
  obtain ⟨kind, value⟩ := operation
  obtain ⟨keys, padded⟩ := ordered
  cases kind with
  | keyPress =>
      rw [applyTransition_key (.inl rfl)]
      by_cases modifier : modifierUsage value = true
      · exact ⟨_, if_pos modifier⟩
      have used := toUInt8_ne_zero ((known (.inl rfl)).resolve_right modifier)
      have needed : {key | key ∈ value.toUInt8 :: keys} ⊆
          keysHeld ((Operation.mk .keyPress value).hold state.held) := by
        intro key member
        change Input.key key ∈ (Operation.mk .keyPress value).hold state.held
        rw [hold_iff]
        rcases List.mem_cons.mp member with rfl | held
        · exact .inr ⟨.inl rfl, Bool.eq_false_iff.mpr modifier, rfl⟩
        · exact .inl (padded.holds_iff.mpr held)
      obtain ⟨after, pressed⟩ := padded.press_six used ((Set.encard_le_encard needed).trans six)
      rw [if_neg modifier, if_pos rfl, pressed]
      exact ⟨_, rfl⟩
  | keyRelease =>
      rw [applyTransition_key (.inr rfl)]
      by_cases modifier : modifierUsage value = true
      · exact ⟨_, if_pos modifier⟩
      · exact ⟨_, if_neg modifier⟩
  | _ => exact ⟨_, rfl⟩

/-- Operations that need no more than six keys can be applied. -/
theorem admitted_of_six {state : HidState} {operations : List Operation} (ordered : state.Ordered)
    (known : ∀ operation ∈ operations, operation.Known) (six : SixKeys state operations) :
    Admitted state operations := by
  induction operations generalizing state with
  | nil => trivial
  | cons operation rest ih =>
      have here := known operation List.mem_cons_self
      obtain ⟨next, applied⟩ := applies_of_six here ordered six.first
      obtain ⟨ordered', held⟩ := applyTransition_held here ordered applied
      refine ⟨here, next, applied, ih ordered' (fun other member => ?_) (six.later held)⟩
      exact known other (List.mem_cons_of_mem _ member)

/-! ### Both directions -/

theorem parse_text {state : HidState} {tokens : List Token} {milliseconds : ℕ}
    (nonempty : tokens ≠ []) (fits : tokens.length ≤ maximumTokens)
    (short : (text tokens).length ≤ maximumCodeBytes)
    (admitted : Admitted state (tokens.map Token.operation))
    (scheduled : scheduledDuration 0 0 (tokens.map Token.operation) = some milliseconds) :
    ∃ plan, parse (text tokens) state = some plan ∧
      plan.operations = tokens.map Token.operation ∧
      plan.scheduledDurationMs.toNat = milliseconds := by
  obtain ⟨-, bound⟩ := scheduledDuration_eq (Nat.zero_le _) scheduled
  have shape : ¬(text tokens = [] ∨ maximumCodeBytes < (text tokens).length) :=
    fun either => either.elim (text_ne_nil nonempty) (Nat.not_lt.mpr short)
  simp only [parse, if_neg shape, parseTokens_text nonempty fits admitted, Option.bind_eq_bind,
    Option.bind_some, scheduled]
  refine ⟨_, rfl, rfl, ?_⟩
  rw [UInt32.toNat_ofNat', Nat.mod_eq_of_lt]
  exact Nat.lt_of_le_of_lt bound (by decide)

/-- The host accepts tokens within the limits. -/
theorem postInit_host {tokens : List Token} {total : Int} (nonempty : tokens ≠ [])
    (fits : tokens.length ≤ maximumTokens) (short : (text tokens).length ≤ maximumCodeBytes)
    (walked : walk {} (tokens.map Token.host) = .ok total) :
    postInit (tokens.map Token.host) = .ok () := by
  refine bind_ok.mpr ⟨(), require_ok.mpr (by simpa using nonempty), bind_ok.mpr ⟨(), ?_, ?_⟩⟩
  · rw [require_ok, List.length_map]
    exact fits
  · refine bind_ok.mpr ⟨total, walked, require_ok.mpr ?_⟩
    rw [← String.length_toList, Token.encodeOperations_host]
    exact short

/-- A sequence of the host is made of tokens within the limits. -/
theorem of_postInit {said : List Host.Sequence.Operation} (accepted : postInit said = .ok ()) :
    ∃ tokens : List Token, said = tokens.map Token.host ∧ tokens ≠ [] ∧
      tokens.length ≤ maximumTokens ∧ (text tokens).length ≤ maximumCodeBytes ∧
        ∃ total, walk {} said = .ok total := by
  obtain ⟨_, nonempty, counted⟩ := bind_ok.mp accepted
  obtain ⟨_, fits, walking⟩ := bind_ok.mp counted
  obtain ⟨total, walked, short⟩ := bind_ok.mp walking
  obtain ⟨tokens, rfl⟩ := Token.of_walk walked
  refine ⟨tokens, rfl, by simpa using require_ok.mp nonempty, ?_, ?_, total, walked⟩
  · have counted : (tokens.map Token.host).length ≤ Host.maxTokens := require_ok.mp fits
    rwa [List.length_map] at counted
  · rw [← Token.encodeOperations_host, String.length_toList]
    exact require_ok.mp short

/-- What the host accepts is what the firmware parses, token for token, with the same
duration. -/
theorem same_language {state : HidState} (ordered : state.Ordered) :
    (∀ sequence : Host.Sequence, ∃ tokens : List Token,
      sequence.operations = tokens.map Token.host ∧
        (SixKeys state (tokens.map Token.operation) →
          ∃ plan, parse sequence.encode.toList state = some plan ∧
            plan.operations = tokens.map Token.operation ∧
            walk {} sequence.operations = .ok (plan.scheduledDurationMs.toNat : Int))) ∧
      ∀ code plan, parse code state = some plan →
        ∃ sequence : Host.Sequence, sequence.encode.toList = code := by
  constructor
  · intro sequence
    obtain ⟨tokens, same, nonempty, fits, short, total, walked⟩ := of_postInit sequence.accepted
    refine ⟨tokens, same, fun six => ?_⟩
    have known : ∀ operation ∈ tokens.map Token.operation, operation.Known := by
      intro operation member
      obtain ⟨token, -, rfl⟩ := List.mem_map.mp member
      exact parseToken_known token.parseToken_code
    have admitted := admitted_of_six ordered known six
    rw [same] at walked ⊢
    obtain ⟨milliseconds, scheduled, rfl⟩ := (Token.walk_host tokens 0 0).mp walked
    obtain ⟨plan, parsed, operations, duration⟩ :=
      parse_text nonempty fits short admitted scheduled
    refine ⟨plan, ?_, operations, duration ▸ walked⟩
    rw [Host.Sequence.encode, same, Token.encodeOperations_host, parsed]
  · intro code plan parsed
    obtain ⟨nonempty, fits⟩ := parse_length parsed
    unfold parse at parsed
    obtain ⟨shape, parsed⟩ := Option.ite_none_left_eq_some.mp parsed
    obtain ⟨operations, read, rest⟩ := Option.bind_eq_some_iff.mp parsed
    obtain ⟨milliseconds, scheduled, made⟩ := Option.bind_eq_some_iff.mp rest
    cases made
    obtain ⟨tokens, rfl, rfl⟩ := text_of_parseTokens read
    have walked := (Token.walk_host tokens 0 0).mpr ⟨milliseconds, scheduled, rfl⟩
    have accepted := postInit_host (by simpa using nonempty) (by simpa using fits)
      (Nat.le_of_not_lt fun long => shape (.inr long)) walked
    exact ⟨⟨tokens.map Token.host, accepted⟩, Token.encodeOperations_host tokens⟩

theorem released_ordered : ({} : HidState).Ordered := ⟨[], .nil, by decide, by decide⟩

theorem same_language_released : ({} : HidState).Ordered ∧
    ∃ sequence : Host.Sequence, sequence.encode.toList = "d10;kp4;kr4;w100;mpL".toList ∧
      ∃ tokens : List Token, sequence.operations = tokens.map Token.host := by
  have accepted : (parse "d10;kp4;kr4;w100;mpL".toList {}).isSome = true := by decide +kernel
  obtain ⟨plan, parsed⟩ := Option.isSome_iff_exists.mp accepted
  obtain ⟨sequence, same⟩ := (same_language released_ordered).2 _ plan parsed
  obtain ⟨tokens, made, -⟩ := (same_language released_ordered).1 sequence
  exact ⟨released_ordered, sequence, same, tokens, made⟩

end HidBot.Sequence
