import HidBot.Ble.GraceSteps
import HidBot.Interleaving.Fallible

/-!
# Graces in every order of accesses

What the calls of the executor have returned is accounted for by the log, and the log is lawful
in every configuration. So what holds of lawful logs holds of the results.
-/

namespace HidBot.GraceAuthority

open Interleaving GraceSlots

/-! ### Runs -/

/-- What a call that has returned says of the log. -/
def Told : Operation → Answer → List Event → Prop
  | .arm identity _, .claim (some (some claim)), log =>
      claim.identity = identity ∧ Genuine claim log
  | .cancel claim _, .flag true, log =>
      ∀ valid ∈ claim, Ended valid.slot (Tagged.number valid.ownership) log
  | .consumeDue claim identity, .flag true, log =>
      ∃ valid ∈ claim, valid.identity = identity ∧
        .consumed valid.slot (Tagged.number valid.ownership) identity ∈ log
  | _, _, _ => True

theorem Told.grows {operation : Operation} {answer : Answer} {log later : List Event}
    (told : Told operation answer log) (grown : log <:+ later) : Told operation answer later := by
  cases operation with
  | arm identity spurious =>
      match answer with
      | .claim (some (some claim)) => exact ⟨told.1, told.2.grows grown⟩
      | .claim none | .claim (some none) | .flag _ => trivial
  | cancel claim spurious =>
      match answer with
      | .flag true => exact fun valid member => (told valid member).grows grown
      | .flag false | .claim _ => trivial
  | consumeDue claim identity =>
      match answer with
      | .flag true =>
          obtain ⟨valid, member, same, consumed⟩ := told
          exact ⟨valid, member, same, grown.subset consumed⟩
      | .flag false | .claim _ => trivial
  | signal identity identityCurrent => trivial

/-- What holds of a task between its calls. -/
def AtRest : Task → State → Prop
  | .executor, state => Rested state
  | .callback number, state => Free number state.world

def besides : Task → State → State → Prop
  | .executor => Beside ByCallbacks
  | .callback number => Others number

def promises : Task → State → State → Prop
  | .executor => Around ByExecutor
  | .callback number => Own number

def contract : Contract Task State Operation Answer where
  rely task _ := besides task
  guar task _ := promises task
  post task operation answer later :=
    Inv later ∧ AtRest task later ∧ Told operation answer later.world
  refl
    | .executor, _ => Beside.refl
    | .callback _, _ => Around.refl
  trans
    | .executor, _ => fun _ _ _ => Beside.trans
    | .callback _, _ => fun _ _ _ => Around.trans

theorem promises_besides {task other : Task} {before after : State} (different : task ≠ other)
    (promised : promises task before after) : besides other before after := by
  cases task with
  | executor =>
      cases other with
      | executor => exact absurd rfl different
      | callback number =>
          refine Around.mono promised fun event own => ?_
          rw [ByExecutor] at own
          simp [ByCallback, own]
  | callback number =>
      cases other with
      | executor =>
          refine Beside.mono promised fun event own => ?_
          rw [ByCallback] at own
          simp [ByCallbacks, own]
      | callback other =>
          refine Around.mono promised.toAround fun event own also => different ?_
          rw [ByCallback] at own also
          rw [Option.some.inj (own.symm.trans also)]

theorem AtRest.besides {task : Task} {before after : State} (rest : AtRest task before)
    (beside : besides task before after) : AtRest task after := by
  cases task with
  | executor => exact Rested.beside rest beside
  | callback number => exact Free.others rest beside

theorem around_of_promises {task : Task} {before after : State}
    (promised : promises task before after) :
    (Inv before → Inv after) ∧ before.world <:+ after.world := by
  cases task with
  | executor => exact ⟨promised.keeps, promised.suffix⟩
  | callback number => exact ⟨promised.keeps, promised.suffix⟩

theorem program_kept {task : Task} {operation : Operation} {state : State} (inv : Inv state)
    (rest : AtRest task state)
    (own : match task, operation with
      | .executor, .arm _ _ => True
      | .executor, .cancel claim _ => ∀ valid ∈ claim, Genuine valid state.world
      | .executor, .consumeDue claim _ => ∀ valid ∈ claim, Genuine valid state.world
      | .executor, .signal _ _ => False
      | .callback _, .signal _ _ => True
      | .callback _, _ => False) :
    contract.Kept task operation (program task operation) state := by
  cases task with
  | executor =>
      cases operation with
      | arm identity spurious =>
          refine .map Answer.claim ((arm_safe inv rest identity spurious).mono ?_)
          rintro result later ⟨invLater, rested, told⟩
          refine ⟨invLater, rested, ?_⟩
          match result with
          | some (some claim) => exact told claim rfl
          | none | some none => trivial
      | cancel claim spurious =>
          refine .map Answer.flag ((cancel_safe inv rest own spurious).mono ?_)
          rintro result later ⟨invLater, rested, told⟩
          refine ⟨invLater, rested, ?_⟩
          cases result with
          | true => exact told rfl
          | false => trivial
      | consumeDue claim identity =>
          refine .map Answer.flag ((consumeDue_safe inv rest own identity).mono ?_)
          rintro result later ⟨invLater, rested, told⟩
          refine ⟨invLater, rested, ?_⟩
          cases result with
          | true => exact told rfl
          | false => trivial
      | signal identity identityCurrent => exact own.elim
  | callback number =>
      cases operation with
      | signal identity identityCurrent =>
          refine .map Answer.flag ((signal_safe inv rest identity identityCurrent).mono ?_)
          exact fun result later done => ⟨done.1, done.2, trivial⟩
      | arm | cancel | consumeDue => exact own.elim

/-- What holds in every configuration of a run. -/
structure Sound (config : Config Task State Operation Answer) : Prop where
  conforms : contract.Conforms config
  inv : Inv config.shared
  rest (task : Task) : config.running task = none → AtRest task config.shared
  told {task : Task} {operation : Operation} {answer : Answer} :
    (task, operation, answer) ∈ config.history → Told operation answer config.shared.world

theorem Sound.genuine {config : Config Task State Operation Answer} (sound : Sound config)
    {claim : Claim} (returned : Returned config.history claim) :
    Genuine claim config.shared.world := by
  obtain ⟨identity, spurious, member⟩ := returned
  exact (sound.told member).2

theorem Sound.step {config next : Config Task State Operation Answer}
    {label : Label Task Operation} (sound : Sound config) (admitted : Admitted config label)
    (stepped : config.step program label = some next) : Sound next := by
  have started (task : Task) (operation : Operation) (called : label = .call task operation)
      (idle : config.running task = none) :
      contract.Kept task operation (program task operation) config.shared := by
    refine program_kept sound.inv (sound.rest task idle) ?_
    subst called
    cases task with
    | executor =>
        cases operation with
        | arm | signal => exact admitted
        | cancel | consumeDue => exact fun valid member => sound.genuine (admitted valid member)
    | callback number => cases operation <;> exact admitted
  obtain ⟨conforms, -⟩ := sound.conforms.step started
    (fun task operation _ _ other _ _ _ different _ _ after => promises_besides different) stepped
  rcases Config.step_cases stepped with
    ⟨task, operation, rfl, idle, rfl⟩ | ⟨task, operation, update, rest, rfl, running, rfl⟩ |
      ⟨task, operation, result, rfl, running, rfl⟩
  · refine ⟨conforms, sound.inv, fun other free => sound.rest other ?_, sound.told⟩
    by_cases same : other = task
    · subst same
      exact idle
    · simpa [same] using free
  · have promised : promises task config.shared (update config.shared) :=
      (sound.conforms task operation _ running config.shared (contract.refl ..)).1
    have kept := around_of_promises promised
    refine ⟨conforms, kept.1 sound.inv, fun other free => ?_,
      fun member => (sound.told member).grows kept.2⟩
    by_cases same : other = task
    · subst same
      simp at free
    · exact (sound.rest other (by simpa [same] using free)).besides
        (promises_besides (Ne.symm same) promised)
  · obtain ⟨-, rested, told⟩ := sound.conforms.returned running
    refine ⟨conforms, sound.inv, fun other free => ?_, fun member => ?_⟩
    · by_cases same : other = task
      · subst same
        exact rested
      · exact sound.rest other (by simpa [same] using free)
    · rcases List.mem_cons.mp member with same | earlier
      · obtain ⟨rfl, rfl, rfl⟩ := by simpa using same
        exact told
      · exact sound.told earlier

/-- Nothing is armed, and nothing has been yet. -/
def fresh : State := { world := [] }

theorem inv_fresh : Inv fresh where
  lawful := trivial
  ownership _ := by
    show (0 : UInt64) = pack 0 .idle
    decide
  identity here nonzero := absurd (Prod.mk.inj here).1.symm nonzero
  fresh _ := by simp [fresh, reservedIds]

theorem sound_initial : Sound (Config.initial fresh) := by
  refine ⟨contract.conforms_initial _, inv_fresh, fun task _ => ?_, by simp [Config.initial]⟩
  cases task with
  | executor =>
      intro slot
      show Tagged.tag 0 ≠ GraceState.arming.code
      decide
  | callback number =>
      intro slot incarnation holds
      simp [Holds, Config.initial, fresh] at holds

variable {final : Config Task State Operation Answer}

theorem sound (reached : Reaches program Admitted (Config.initial fresh) final) : Sound final :=
  reached.induct sound_initial fun _ _ _ sound admitted stepped => sound.step admitted stepped

/-! ### Results -/

/-- A due of the incarnation has been delivered. -/
def delivers (slot : Fin 2) (incarnation : UInt64) (_ : Task) : Operation → Answer → Bool
  | .consumeDue (some claim) _, .flag true =>
      claim.slot = slot && Tagged.number claim.ownership = incarnation
  | _, _ => false

/-- An arm has returned such an incarnation. -/
def arms (which : UInt64 → Bool) (_ : Task) : Operation → Answer → Bool
  | .arm _ _, .claim (some (some claim)) => which (Tagged.number claim.ownership)
  | _, _ => false

/-- At most one event, which is no arm. -/
def Plain (before after : State) : Prop :=
  after.world = before.world ∨ ∃ event : Event, after.world = event :: before.world ∧
    ∀ slot incarnation identity, event ≠ .armed slot incarnation identity

theorem Plain.suffix {before after : State} (plain : Plain before after) :
    before.world <:+ after.world := by
  rcases plain with same | ⟨event, more, -⟩
  · rw [same]
  · rw [more]
    exact List.suffix_cons ..

theorem Plain.refl (state : State) : Plain state state := .inl rfl

theorem cancel_plain (claim : Option Claim) (spurious : List Bool) :
    (cancel claim spurious).Each Plain := by
  cases claim with
  | none => trivial
  | some claim =>
      change (cancelLoop claim spurious).Each Plain
      induction spurious with
      | nil => trivial
      | cons spurious rest ih =>
          refine .bind (.read Plain.refl _) fun observed => ?_
          split
          · trivial
          have exchanges (target : GraceState) {next : Option UInt64 → Program State Bool}
              (onward : ∀ found, (next found).Each Plain) :
              (exchange claim.slot observed (withState observed target)
                (.withdrawn claim.slot (Tagged.number observed) :: ·) spurious >>= next).Each
                Plain :=
            .bind (exchange_each Plain.refl fun state => .inr ⟨_, rfl, by simp⟩) onward
          dsimp only
          split
          iterate 2
            · refine exchanges .idle fun found => ?_
              cases found with
              | none => trivial
              | some _ => exact ih
          · refine exchanges .canceledClaimed fun found => ?_
            cases found with
            | none => trivial
            | some _ => exact ih
          · trivial

theorem consumeDue_plain (claim : Option Claim) (identity : BleRouteReleaseIdentity) :
    (consumeDue claim identity).Each Plain := by
  unfold consumeDue
  split
  · trivial
  · split
    · trivial
    · refine .bind (loadIdentity_each Plain.refl _ _ _) fun stored => ?_
      split
      · trivial
      · exact .bind (exchange_each Plain.refl fun state => .inr ⟨_, rfl, by simp⟩) fun _ => trivial

theorem signal_plain (callback : Nat) (identity : BleRouteReleaseIdentity)
    (identityCurrent : Bool) : (signal callback identity identityCurrent).Each Plain := by
  have finds (slots : List (Fin 2)) : (findArmed identity slots).Each Plain := by
    induction slots with
    | nil => trivial
    | cons slot rest ih =>
        refine .bind (.read Plain.refl _) fun observed => ?_
        split
        · refine .bind (loadIdentity_each Plain.refl _ _ _) fun stored => ?_
          split
          · trivial
          · exact ih
        · exact ih
  refine .bind (finds _) fun found => ?_
  cases found with
  | none => trivial
  | some candidate =>
      dsimp only
      split
      · trivial
      · refine .bind ?_ fun claimed => ?_
        · unfold claim
          split
          · trivial
          · refine .bind (exchange_each Plain.refl fun state => .inr ⟨_, rfl, by simp⟩)
              fun kept => ?_
            cases kept <;> trivial
        · cases claimed with
          | none => trivial
          | some claimed =>
              dsimp only
              unfold publishDue
              split
              · trivial
              · refine .bind (exchange_each Plain.refl fun state => .inr ⟨_, rfl, by simp⟩)
                  fun kept => ?_
                cases kept with
                | none => trivial
                | some expected =>
                    dsimp only
                    split
                    · exact .bind (exchange_each Plain.refl fun state => .inr ⟨_, rfl, by simp⟩)
                        fun _ => trivial
                    · trivial

section Counts

variable {slot : Fin 2} {incarnation : UInt64} {which : UInt64 → Bool}

/-- How many events of a kind there have been. -/
def tally (kind : Event → Bool) (state : State) : Nat := state.world.countP kind

theorem tally_le {kind : Event → Bool} (before after : State)
    (grown : before.world <:+ after.world) : tally kind before ≤ tally kind after :=
  grown.sublist.countP_le

/-- The word that the arm has been published with has such a number. -/
def armsWord (which : UInt64 → Bool) : Event → Bool
  | .armed _ number _ => which (Tagged.number (pack number .armed))
  | .reserved .. | .claimed .. | .published .. | .freed .. | .withdrawn .. | .consumed .. => false

theorem consumeDue_earns (claim : Option Claim) (identity : BleRouteReleaseIdentity) :
    (consumeDue claim identity).Earns (tally (Event.consumes slot incarnation))
      (fun flag => (delivers slot incarnation .executor (.consumeDue claim identity)
        (.flag flag)).toNat) 0 := by
  unfold consumeDue
  cases claim with
  | none => exact Nat.le_refl _
  | some valid =>
      dsimp only
      split
      · exact Nat.le_refl _
      refine .after (loadIdentity_each (fun _ => Nat.le_refl _) _ _ _) fun stored => ?_
      split
      · exact Nat.le_refl _
      let weight (found : Option UInt64) : Nat :=
        (decide (found = none) && decide (valid.slot = slot) &&
          decide (Tagged.number valid.ownership = incarnation)).toNat
      have exchanges : (exchange valid.slot (withState valid.ownership .due)
          (withState valid.ownership .idle)
          (.consumed valid.slot (Tagged.number (withState valid.ownership .due)) identity :: ·) :
            Program State _).Earns (tally (Event.consumes slot incarnation)) weight 0 := by
        refine .readModifyWrite fun state => ?_
        split
        · change state.world.countP _ + _ ≤ (_ :: state.world).countP _
          simp [weight, List.countP_cons, Event.consumes, withState, Bool.toNat, Bool.cond_eq_ite]
        · simp [weight]
      refine .bind exchanges fun found more enough => ?_
      cases found with
      | none => simpa [weight, Program.Earns, delivers] using enough
      | some other => exact Nat.zero_le _

theorem arm_grows (identity : BleRouteReleaseIdentity) (spurious : Fin 2 → List Bool) :
    (arm identity spurious).Each fun before after => before.world <:+ after.world := by
  refine .bind (arming.arm_each ?_ ?_ _ ?_ _) fun result => ?_
  · exact fun before after same => same ▸ List.suffix_rfl
  · exact fun state slot incarnation => List.suffix_cons ..
  · exact fun state slot incarnation => List.suffix_cons ..
  · rcases result with _ | _ | _ <;> trivial

theorem delivers_earns (task : Task) (operation : Operation) :
    (program task operation).Earns (tally (Event.consumes slot incarnation))
      (fun answer => (delivers slot incarnation task operation answer).toNat) 0 := by
  have free {α : Type} {call : Program State α} (wrap : α → Answer)
      (other : ∀ result, (delivers slot incarnation task operation (wrap result)).toNat = 0)
      (grows : call.Each fun before after => before.world <:+ after.world) :
      (call >>= fun result => pure (wrap result)).Earns (tally (Event.consumes slot incarnation))
        (fun answer => (delivers slot incarnation task operation answer).toNat) 0 :=
    .map wrap (.of_each other (grows.mono tally_le) 0)
  have suffix (before after : State) (plain : Plain before after) := plain.suffix
  cases operation with
  | arm identity spurious => exact free .claim (fun _ => rfl) (arm_grows identity spurious)
  | cancel claim spurious =>
      exact free .flag (fun _ => rfl) ((cancel_plain claim spurious).mono suffix)
  | consumeDue claim identity => exact .map Answer.flag (consumeDue_earns claim identity)
  | signal identity identityCurrent =>
      exact free .flag (fun _ => rfl) ((signal_plain _ identity identityCurrent).mono suffix)

/-- What a search for a slot is worth to the arms of a claim. -/
def searchWeight (which : UInt64 → Bool) (found : Option (Option (Fin 2 × UInt64))) : Nat :=
  found.elim 0 fun valid => valid.elim 0 fun slot => (which (Tagged.number slot.2)).toNat

theorem arm_earns (identity : BleRouteReleaseIdentity) (spurious : Fin 2 → List Bool) :
    (arm identity spurious).Earns (tally (armsWord which))
      (fun claim => (arms which .executor (.arm identity spurious) (.claim claim)).toNat)
      0 := by
  have searches : (arming.arm identity spurious).Earns (tally (armsWord which))
      (searchWeight which) 0 := by
    refine arming.arm_earns ?_ ?_ rfl rfl identity ?_ spurious
    · exact fun before after same => tally_le before after (same ▸ List.suffix_rfl)
    · exact fun state slot number => tally_le _ _ (List.suffix_cons ..)
    · intro state slot number
      change state.world.countP _ + _ ≤ (_ :: state.world).countP _
      by_cases own : which (Tagged.number (Tagged.tagged number GraceState.armed.code))
      · simp [searchWeight, armsWord, pack, arming, own]
      · simp [searchWeight, armsWord, pack, arming, own]
  refine .bind searches fun result more enough => ?_
  rcases result with _ | _ | ⟨slot, ownership⟩
  · exact Nat.zero_le _
  · exact Nat.zero_le _
  · simpa [searchWeight, Program.Earns, arms] using enough

theorem arms_earns (task : Task) (operation : Operation) :
    (program task operation).Earns (tally (armsWord which))
      (fun answer => (arms which task operation answer).toNat) 0 := by
  have free {α : Type} {call : Program State α} (wrap : α → Answer)
      (other : ∀ result, (arms which task operation (wrap result)).toNat = 0)
      (plain : call.Each Plain) :
      (call >>= fun result => pure (wrap result)).Earns (tally (armsWord which))
        (fun answer => (arms which task operation answer).toNat) 0 :=
    .map wrap (.of_each other (plain.mono fun before after step =>
      tally_le before after step.suffix) 0)
  cases operation with
  | arm identity spurious => exact .map Answer.claim (arm_earns identity spurious)
  | cancel claim spurious => exact free .flag (fun _ => rfl) (cancel_plain claim spurious)
  | consumeDue claim identity => exact free .flag (fun _ => rfl) (consumeDue_plain claim identity)
  | signal identity identityCurrent =>
      exact free .flag (fun _ => rfl) (signal_plain _ identity identityCurrent)

theorem armsWord_once {log : List Event} (lawful : Lawful log) :
    log.countP (armsWord (· = incarnation)) ≤ 1 := by
  refine le_trans (List.countP_mono_left fun event member own => ?_)
    (show log.countP (Event.arms incarnation) ≤ 1 from lawful.armed_once)
  cases event with
  | armed slot number identity =>
      have small := lawful.armed_small member
      simpa [armsWord, Event.arms, number_pack small] using own
  | _ => simp [armsWord] at own

end Counts

/-! ### Arms that are outstanding -/

/-- An arm has been cancelled, or its due consumed. -/
def Settled (history : List (Task × Operation × Answer)) (claim : Claim) : Prop :=
  (∃ spurious,
      (Task.executor, Operation.cancel (some claim) spurious, Answer.flag true) ∈ history) ∨
    ∃ identity,
      (Task.executor, Operation.consumeDue (some claim) identity, Answer.flag true) ∈ history

theorem Settled.ended {config : Config Task State Operation Answer} (sound : Sound config)
    {claim : Claim} (settled : Settled config.history claim) :
    Ended claim.slot (Tagged.number claim.ownership) config.shared.world := by
  rcases settled with ⟨spurious, member⟩ | ⟨identity, member⟩
  · exact sound.told member claim rfl
  · obtain ⟨_, ⟨⟩, -, consumed⟩ := sound.told member
    exact .inr ⟨identity, consumed⟩

/-- The step that publishes an arm. -/
def Publishes (slot : Fin 2) (incarnation : UInt64) (before after : State) : Prop :=
  ¬(∃ identity, .armed slot incarnation identity ∈ before.world) ∧
    ∃ identity, .armed slot incarnation identity ∈ after.world

section Publishing

variable {slot : Fin 2} {incarnation : UInt64}

theorem Plain.not_publishes {before after : State} (plain : Plain before after) :
    ¬Publishes slot incarnation before after := by
  rintro ⟨unarmed, identity, member⟩
  rcases plain with same | ⟨event, more, other⟩
  · exact unarmed ⟨identity, same ▸ member⟩
  · rw [more] at member
    exact unarmed ⟨identity, (List.mem_cons.mp member).resolve_left (Ne.symm (other _ _ _))⟩

theorem arm_returns (identity : BleRouteReleaseIdentity) (spurious : Fin 2 → List Bool) :
    (arm identity spurious).After (Publishes slot incarnation) fun result =>
      result = some (some { slot, ownership := pack incarnation .armed, identity }) := by
  have searches : (arming.arm identity spurious).After (Publishes slot incarnation) fun result =>
      result = some (some (slot, pack incarnation .armed)) := by
    refine arming.arm_after ?_ ?_ identity ?_ spurious
    · exact fun before after same => Plain.not_publishes (.inl same)
    · exact fun state index number => Plain.not_publishes (.inr ⟨_, rfl, by simp⟩)
    · rintro state index number ⟨unarmed, other, member⟩
      rcases List.mem_cons.mp member with same | earlier
      · obtain ⟨rfl, rfl, -⟩ := Event.armed.inj same
        rfl
      · exact absurd ⟨other, earlier⟩ unarmed
  refine searches.bind ?_ fun result => ?_
  · rintro _ rfl
    rfl
  · rcases result with _ | _ | _ <;> trivial

/-- A task that publishes an arm is the executor, which returns the claim of it. -/
def ReturnsClaim (slot : Fin 2) (incarnation : UInt64) (task : Task) (operation : Operation)
    (answer : Answer) : Prop :=
  task = .executor ∧ ∃ identity spurious, operation = .arm identity spurious ∧
    answer = .claim (some (some { slot, ownership := pack incarnation .armed, identity }))

theorem program_returns {config : Config Task State Operation Answer} {task : Task}
    {operation : Operation} (admitted : Admitted config (.call task operation)) :
    (program task operation).After (Publishes slot incarnation)
      (ReturnsClaim slot incarnation task operation) := by
  have never {α : Type} {call : Program State α} (wrap : α → Answer) (plain : call.Each Plain) :
      (call >>= fun result => pure (wrap result)).After (Publishes slot incarnation)
        (ReturnsClaim slot incarnation task operation) :=
    .of_each (.bind (plain.mono fun _ _ step => step.not_publishes) fun _ => trivial)
  cases operation with
  | cancel claim spurious => exact never .flag (cancel_plain claim spurious)
  | consumeDue claim identity => exact never .flag (consumeDue_plain claim identity)
  | signal identity identityCurrent => exact never .flag (signal_plain _ identity identityCurrent)
  | arm identity spurious =>
      cases task with
      | callback number => exact admitted.elim
      | executor =>
          refine (arm_returns identity spurious).bind ?_ fun _ => trivial
          rintro _ rfl
          exact ⟨rfl, identity, spurious, rfl, rfl⟩

/-- The executor has returned the claim of an arm that has been published, unless it is still
in the call. -/
theorem armed_returned (reached : Reaches program Admitted (Config.initial fresh) final)
    (idle : final.running .executor = none) {identity : BleRouteReleaseIdentity}
    (armed : .armed slot incarnation identity ∈ final.shared.world) :
    ∃ claim, Returned final.history claim ∧ claim.slot = slot ∧
      claim.ownership = pack incarnation .armed := by
  obtain ⟨task, operation, ⟨call, running, ends⟩ | ⟨answer, member, told⟩⟩ :=
    reached.honoured (fun state => ∃ identity, .armed slot incarnation identity ∈ state.world)
      (fun _ => rfl) (by simp [Config.initial, fresh])
      (fun config task operation admitted => program_returns admitted) ⟨identity, armed⟩
  · obtain ⟨rfl, -⟩ := ends.exec final.shared
    rw [idle] at running
    cases running
  · obtain ⟨rfl, other, spurious, rfl, rfl⟩ := told
    exact ⟨_, ⟨other, spurious, member⟩, rfl, rfl⟩

end Publishing

/-! ### What every run comes to -/

/-- What a call needs of the history. -/
def Entitled (history : List (Task × Operation × Answer)) (task : Task) : Operation → Prop
  | .cancel claim _ => ∀ valid ∈ claim, Returned history valid
  | .consumeDue claim _ => ∀ valid ∈ claim, Returned history valid
  | .arm _ _ => task = .executor
  | .signal _ _ => True

theorem entitled (reached : Reaches program Admitted (Config.initial fresh) final) {task : Task}
    {operation : Operation} {answer : Answer} (member : (task, operation, answer) ∈ final.history) :
    Entitled final.history task operation := by
  refine (Reaches.calls_entitled ?_ ?_ (fun _ => rfl) rfl reached).2 _ _ _ member
  · intro entry history task operation before
    cases operation with
    | arm | signal => exact before
    | cancel | consumeDue =>
        intro valid given
        obtain ⟨identity, spurious, found⟩ := before valid given
        exact ⟨identity, spurious, List.mem_cons_of_mem _ found⟩
  · intro config task operation admitted
    cases task with
    | executor =>
        cases operation with
        | arm | signal => trivial
        | cancel | consumeDue => exact admitted
    | callback number =>
        cases operation with
        | signal => trivial
        | arm | cancel | consumeDue => exact admitted.elim

section Results

variable {slot : Fin 2} {incarnation : UInt64}

theorem delivered_once (reached : Reaches program Admitted (Config.initial fresh) final) :
    results (delivers slot incarnation) final.history ≤ 1 :=
  le_trans (reached.counted fun task operation => delivers_earns task operation)
    (sound reached).inv.lawful.consumed_once

theorem arms_once (reached : Reaches program Admitted (Config.initial fresh) final) :
    results (arms (· = incarnation)) final.history ≤ 1 :=
  le_trans (reached.counted fun task operation => arms_earns task operation)
    (armsWord_once (sound reached).inv.lawful)

/-- What a run adds to the log. -/
theorem log_grows {middle : Config Task State Operation Answer} (sound : Sound middle)
    (reached : Reaches program Admitted middle final) :
    Sound final ∧ middle.shared.world <:+ final.shared.world := by
  induction reached with
  | refl => exact ⟨sound, List.suffix_rfl⟩
  | @step config next label _ admitted stepped ih =>
      refine ⟨ih.1.step admitted stepped, ih.2.trans ?_⟩
      rcases Config.step_cases stepped with
        ⟨task, operation, rfl, idle, rfl⟩ | ⟨task, operation, update, rest, rfl, running, rfl⟩ |
          ⟨task, operation, result, rfl, running, rfl⟩
      · exact List.suffix_rfl
      · exact (around_of_promises (ih.1.conforms task operation _ running config.shared
          (contract.refl ..)).1).2
      · exact List.suffix_rfl

/-- Results of a kind that only the executor gives come from what is added to the log, once it
is between its calls. -/
theorem results_since {kind : Task → Operation → Answer → Bool} {events : Event → Bool}
    {middle : Config Task State Operation Answer}
    (earns : ∀ task operation, (program task operation).Earns (tally events)
      (fun answer => (kind task operation answer).toNat) 0)
    (own : ∀ number identity identityCurrent answer,
      kind (.callback number) (.signal identity identityCurrent) answer = false)
    (first : Reaches program Admitted (Config.initial fresh) middle)
    (idle : middle.running .executor = none) (second : Reaches program Admitted middle final)
    (none : ∀ newer, final.shared.world = newer ++ middle.shared.world →
      ∀ event ∈ newer, events event = false) :
    results kind final.history ≤ results kind middle.history := by
  have tallied := first.tallied earns fun task operation call running => by
    simp [Config.initial] at running
  have signals (config : Config Task State Operation Answer) (task : Task) (operation : Operation)
      (admitted : Admitted config (.call task operation)) : task = .executor ∨
        ∃ identity identityCurrent, operation = .signal identity identityCurrent := by
    cases task with
    | executor => exact .inl rfl
    | callback number =>
        cases operation with
        | signal identity identityCurrent => exact .inr ⟨identity, identityCurrent, rfl⟩
        | arm | cancel | consumeDue => exact admitted.elim
  have calls := (Reaches.calls_admitted signals (fun _ => rfl) rfl first).1
  have bounded := second.counted_since earns fun task operation call running => by
    refine tallied.earns_nothing running fun answer => ?_
    cases task with
    | executor =>
        rw [idle] at running
        cases running
    | callback number =>
        obtain same | ⟨identity, identityCurrent, rfl⟩ := calls _ _ _ running
        · cases same
        · rw [own]
          rfl
  obtain ⟨newer, grown⟩ := (log_grows (sound first) second).2
  have nothing : newer.countP events = 0 :=
    List.countP_eq_zero.mpr fun event member => by simp [none newer grown.symm event member]
  have same : tally events final.shared = tally events middle.shared := by
    rw [tally, tally, ← grown, List.countP_append, nothing, Nat.zero_add]
  omega

/-- After a cancel has returned, the due of its arm is not delivered. -/
theorem none_delivered_after {newer older : List (Task × Operation × Answer)} {claim : Claim}
    {spurious : List Bool} (reached : Reaches program Admitted (Config.initial fresh) final)
    (split : final.history =
      newer ++ (.executor, .cancel (some claim) spurious, .flag true) :: older) :
    results (delivers claim.slot (Tagged.number claim.ownership)) newer = 0 := by
  obtain ⟨middle, first, returned, idle, second⟩ := reached.returned_at rfl split
  have settled : Settled middle.history claim :=
    .inl ⟨spurious, by rw [returned]; exact List.mem_cons_self ..⟩
  have ended := settled.ended (sound first)
  have bounded := results_since (fun _ _ => delivers_earns _ _) (fun _ _ _ _ => rfl) first idle
    second fun newest grown event member => by
      have lawful := grown ▸ (sound reached).inv.lawful
      cases event with
      | consumed slot incarnation identity =>
          by_contra delivered
          obtain ⟨rfl, rfl⟩ : slot = claim.slot ∧ incarnation = Tagged.number claim.ownership := by
            simpa [Event.consumes] using delivered
          exact lawful.no_consumed_after ended identity member
      | _ => rfl
  rw [split, returned, results, results, List.countP_append] at bounded
  rw [results]
  omega

/-- After the last incarnation has been armed, nothing is. -/
theorem none_armed_after {newer older : List (Task × Operation × Answer)} {claim : Claim}
    {identity : BleRouteReleaseIdentity} {spurious : Fin 2 → List Bool}
    (reached : Reaches program Admitted (Config.initial fresh) final)
    (split : final.history =
      newer ++ (.executor, .arm identity spurious, .claim (some (some claim))) :: older)
    (last : Tagged.number claim.ownership = Tagged.maxNumber) :
    results (arms fun _ => true) newer = 0 := by
  obtain ⟨middle, first, returned, idle, second⟩ := reached.returned_at rfl split
  have kept := sound first
  have member : Tagged.maxNumber ∈ reservedIds middle.shared.world := by
    have own : Returned middle.history claim :=
      ⟨identity, spurious, by rw [returned]; exact List.mem_cons_self ..⟩
    obtain ⟨incarnation, small, ownership, armed⟩ := kept.genuine own
    rw [ownership, number_pack small] at last
    exact last ▸ kept.inv.lawful.armed_reserved armed
  have rested (slot : Fin 2) : (current slot middle.shared.world).2 ≠ .arming := by
    rw [ne_eq, ← kept.inv.tag_iff]
    exact kept.rest .executor idle slot
  have earns (task : Task) (operation : Operation) : (program task operation).Earns
      (tally (armsWord fun _ => true))
      (fun answer => (arms (fun _ => true) task operation answer).toNat) 0 :=
    arms_earns task operation
  have bounded := results_since earns (fun _ _ _ _ => rfl) first idle second
    fun newest grown event found => by
      have lawful := grown ▸ (sound reached).inv.lawful
      cases event with
      | armed slot incarnation identity =>
          exact absurd found (lawful.no_armed_after member rested slot incarnation identity)
      | _ => rfl
  rw [split, returned, results, results, List.countP_append] at bounded
  rw [results]
  omega

/-- A due is delivered for the identity that its arm was given. -/
theorem delivered_identity (reached : Reaches program Admitted (Config.initial fresh) final)
    {claim : Option Claim} {identity : BleRouteReleaseIdentity}
    (member : (.executor, .consumeDue claim identity, .flag true) ∈ final.history) :
    ∃ valid ∈ claim, ∃ spurious, (.executor, .arm identity spurious,
      .claim (some (some valid))) ∈ final.history := by
  obtain ⟨valid, given, same, -⟩ := (sound reached).told member
  obtain ⟨other, spurious, returned⟩ := entitled reached member valid given
  have own : valid.identity = other := ((sound reached).told returned).1
  exact ⟨valid, given, spurious, same ▸ own ▸ returned⟩

theorem idle_of_free (reached : Reaches program Admitted (Config.initial fresh) final)
    (idle : final.running .executor = none)
    (settled : ∀ claim, Returned final.history claim → claim.slot = slot →
      Settled final.history claim)
    (free : ∀ callback incarnation, ¬Holds callback slot incarnation final.shared.world) :
    stateOf (final.shared.ownership slot) = some .idle := by
  have kept := sound reached
  rw [kept.inv.stateOf_ownership]
  refine congrArg some (kept.inv.lawful.idle_of_settled ?_ ?_ free)
  · rw [ne_eq, ← kept.inv.tag_iff]
    exact kept.rest .executor idle slot
  · intro incarnation identity armed
    obtain ⟨claim, returned, rfl, ownership⟩ := armed_returned reached idle armed
    have ended := (settled claim returned rfl).ended kept
    rwa [ownership, number_pack (kept.inv.lawful.armed_small armed)] at ended

/-- Each due is delivered once at most, for the identity that its arm was given, and never
after a cancel of the arm has returned. No incarnation is armed twice, and after the last one
nothing is armed. A slot is idle when each of its arms has been cancelled or consumed and no
callback holds a claim on it, and a callback holds none between its calls. -/
theorem graces_delivered (reached : Reaches program Admitted (Config.initial fresh) final) :
    (∀ slot incarnation, results (delivers slot incarnation) final.history ≤ 1) ∧
      (∀ claim identity, (.executor, .consumeDue claim identity, .flag true) ∈ final.history →
        ∃ valid ∈ claim, ∃ spurious, (.executor, .arm identity spurious,
          .claim (some (some valid))) ∈ final.history) ∧
      (∀ newer older claim spurious, final.history =
          newer ++ (.executor, .cancel (some claim) spurious, .flag true) :: older →
        results (delivers claim.slot (Tagged.number claim.ownership)) newer = 0) ∧
      (∀ incarnation, results (arms (· = incarnation)) final.history ≤ 1) ∧
      (∀ newer older identity spurious claim, final.history =
          newer ++ (.executor, .arm identity spurious, .claim (some (some claim))) :: older →
        Tagged.number claim.ownership = Tagged.maxNumber →
          results (arms fun _ => true) newer = 0) ∧
      (∀ slot, final.running .executor = none →
        (∀ claim, Returned final.history claim → claim.slot = slot →
          Settled final.history claim) →
        (∀ callback incarnation, ¬Holds callback slot incarnation final.shared.world) →
          stateOf (final.shared.ownership slot) = some .idle) ∧
      ∀ callback, final.running (.callback callback) = none →
        Free callback final.shared.world :=
  ⟨fun _ _ => delivered_once reached, fun _ _ => delivered_identity reached,
    fun _ _ _ _ => none_delivered_after reached, fun _ => arms_once reached,
    fun _ _ _ _ _ => none_armed_after reached, fun _ => idle_of_free reached,
    fun callback => (sound reached).rest (.callback callback)⟩

/-- An arm is claimed by a callback, which publishes that it is due. -/
def signalled (identity : BleRouteReleaseIdentity) : List (Label Task Operation) :=
  .call .executor (.arm identity fun _ => [false]) :: .replicate 18 (.advance .executor) ++
  .call (.callback 0) (.signal identity true) :: .replicate 15 (.advance (.callback 0))

def consumption (claim : Claim) : List (Label Task Operation) :=
  .call .executor (.consumeDue (some claim) claim.identity) :: .replicate 13 (.advance .executor)

theorem graces_delivered_once : ∃ final : Config Task State Operation Answer,
    results (delivers 0 1) final.history = 1 ∧ Free 0 final.shared.world := by
  let claim : Claim := ⟨0, pack 1 .armed, unarmed⟩
  have facts : (replay program (signalled unarmed) (Config.initial fresh)).map (fun config =>
      ((config.running .executor).isNone, config.shared.world)) =
        some (true, [.published 0 0 1, .claimed 0 0 1 unarmed, .armed 0 1 unarmed,
          .reserved 0 1]) := by
    decide +kernel
  have replayed : (replay program (signalled unarmed ++ consumption claim)
      (Config.initial fresh)).map (fun config => (results (delivers 0 1) config.history,
        (config.running (.callback 0)).isNone)) = some (1, true) := by
    decide +kernel
  obtain ⟨final, replayed, ends⟩ := Option.map_eq_some_iff.mp replayed
  obtain ⟨delivered, rest⟩ := Prod.mk.inj ends
  rw [replay_append] at replayed
  obtain ⟨first, replayedFirst, replayed⟩ := Option.bind_eq_some_iff.mp replayed
  obtain ⟨second, called, replayed⟩ := Option.bind_eq_some_iff.mp replayed
  rw [replayedFirst] at facts
  obtain ⟨idle, world⟩ := Prod.mk.inj (Option.some.inj facts)
  have reachedFirst : Reaches program Admitted (Config.initial fresh) first := by
    refine .of_replay ?_ replayedFirst
    simp [signalled, Admitted]
  have armed : .armed 0 1 unarmed ∈ first.shared.world := by simp [world]
  have returned : Returned first.history claim := by
    obtain ⟨⟨slot, ownership, identity⟩, returned, rfl, rfl⟩ :=
      armed_returned reachedFirst (Option.isNone_iff_eq_none.mp idle) armed
    obtain ⟨incarnation, -, -, member⟩ := (sound reachedFirst).genuine returned
    obtain ⟨-, rfl⟩ : incarnation = 1 ∧ identity = unarmed := by simpa [world] using member
    exact returned
  have reached : Reaches program Admitted (Config.initial fresh) final := by
    refine Reaches.trans (.step _ reachedFirst ?_ called) (.of_replay ?_ replayed)
    · rintro _ ⟨⟩
      exact returned
    · simp [Admitted]
  obtain ⟨-, -, -, -, -, -, free⟩ := graces_delivered reached
  exact ⟨final, delivered, free 0 (Option.isNone_iff_eq_none.mp rest)⟩

end Results

end HidBot.GraceAuthority
