import HidBot.Interleaving.Pledge
import HidBot.Interleaving.Triple
import HidBot.Route.Runs
import HidBot.Route.VetoStages

/-!
# A commit against vetoes

The commit of the USB route from the reading of its cut to its return, and runs
of one commit and any number of vetoes. A veto in the window of the commit
defeats it; without one the route is committed.
-/

namespace HidBot.Route

open Interleaving

/-! ### The commit -/

/-- The route words after a commit. -/
def Core.committed (core : Core) : Core :=
  { core with
    sequence := core.sequence + 1 + 1
    generation := core.generation + 1
    epoch := core.epoch + 1
    desired := .usb
    active := .usb
    transition := .stable
    unsettled := false }

def Core.StableNone (core : Core) : Prop :=
  core.desired = .none ∧ core.active = .none ∧ core.transition = .stable

theorem committed_settled {core : Core} (settled : publicationBusy core.sequence = false) :
    publicationBusy core.committed.sequence = false := by
  simp only [publicationBusy, Core.committed, beq_eq_false_iff_ne, UInt32.toNat_add] at settled ⊢
  have one : (1 : UInt32).toNat = 1 := rfl
  omega

section Commit

variable {state : Watched} {core : Core} {cut : BitVec 30} {room : Nat} {turns : List Bool}

/-- What the publication of the route comes to. -/
inductive Published (core : Core) (room : Nat) : Option Generation → Watched → Prop where
  | finished {state : Watched} (here : (Stage.finished core.committed).At state) :
      Published core room (some (core.generation + 1)) state
  | defeated {state : Watched} {now : Core} (none : now.StableNone)
      (here : (Stage.defeated room now).At state) : Published core room .none state

/-- The publication is finished only without a veto. -/
theorem finish_judged {serial : BitVec 30}
    (here : (Stage.publishing { serial, active := true } core).At state)
    (usb : core.active = .usb) :
    Judged (fun result later => (result = true → (Stage.finished core).At later) ∧
        (result = false → (Stage.beaten { serial, active := true } 0 core).At later))
      (finishIdentity (some { serial, active := true })) state := by
  refine here.exchange Stage.publishing_fences (.finished core) Stage.finished_fences
    (fun later now same _ => ?_) (fun later now => ?_) fun later now missed => ?_
  · obtain ⟨-, -, kept⟩ := now.fine
    obtain ⟨-, unvetoed⟩ := kept (by rw [same])
    refine ⟨rfl, ?_, now.core, now.pending, unvetoed, rfl, rfl⟩
    have active : later.1.core.active = .usb := now.core ▸ usb
    simp [noteCommit, same, active, UsbPublicationCut.next, Stage.finished]
  · exact now.done fun _ there => ⟨fun _ => there, fun lost => Bool.noConfusion lost⟩
  · obtain ⟨active, vetoed, kept⟩ := now.fine
    have veto : later.1.usbPublication.veto = true := by
      by_contra unvetoed
      exact missed ⟨(kept (by simpa using unvetoed)).1, rfl⟩
    have there : (Stage.beaten { serial, active := true } 0 core).At later :=
      ⟨now.opened, now.closed, now.core, now.pending, active, vetoed veto, Nat.zero_le _,
        .inr (vetoed veto)⟩
    exact there.done fun _ there => ⟨fun won => Bool.noConfusion won, fun _ => there⟩

theorem publishRoute_judged (serial : BitVec 30) (enough : room ≤ turns.count false)
    (here : (Stage.publishing { serial, active := true } core).At state) :
    Judged (Published core room) (publishRoute .usb (some { serial, active := true }) turns)
      state := by
  have cleared {now : Core} {later : Watched} {observed : UsbPublicationCut} (none : now.StableNone)
      (there : (Stage.beaten observed 0 now).At later) :
      Judged (Published core room) (clearUsbPublication turns >>= fun _ =>
        leaveWriterWithHandoff >>= fun _ => .done .none) later :=
    (clearUsbPublication_judged none.2.1 enough there).next fun _ later there =>
      (handoff_undisturbed rfl there (Stage.defeated_fences none.2.1)).next fun _ later there =>
        there.done fun _ there => .defeated none there
  refine here.onCore Stage.publishing_fences fun _ now => ?_
  refine now.change (.publishing { serial, active := true }
    (({ core with sequence := core.sequence + 1 } : Core).advance true)) Stage.publishing_fences
    (fun later now => ⟨rfl, now.opened, now.closed, congrArg (Core.advance · true) now.core,
      now.pending, now.fine⟩) fun later now there => ?_
  have published : later.1.core.generation + 1 = core.generation + 1 := by rw [now.core]; rfl
  simp only [published]
  refine (preempted_judged there).next fun preempted later both => ?_
  obtain ⟨beaten, own⟩ := both
  cases preempted with
  | true =>
      rw [if_pos rfl]
      exact (storeRoute_judged (beaten rfl) fun _ => Stage.beaten_fences).next
        fun _ later there => cleared ⟨rfl, rfl, rfl⟩ there
  | false =>
      rw [if_neg Bool.false_ne_true]
      refine (storeRoute_judged (own rfl) fun _ => Stage.publishing_fences).next
        fun _ later there => ?_
      refine (finish_judged there rfl).next fun won later both => ?_
      obtain ⟨finished, beaten⟩ := both
      cases won with
      | true =>
          rw [if_pos rfl]
          exact (handoff_undisturbed rfl (finished rfl) Stage.finished_fences).next
            fun _ later there => there.done fun _ there => .finished there
      | false =>
          rw [if_neg Bool.false_ne_true]
          refine (retire_judged (beaten rfl) (fun _ => Stage.beaten_fences) ⟨rfl, rfl⟩
            (show OutputRoute.usb ≠ .none by decide)).next fun _ later retired => ?_
          obtain ⟨now, none, there⟩ := retired
          exact cleared none there

/-- What the commit comes to, from the words it started on. -/
inductive Outcome (start : Words) (room : Nat) : Bool → Watched → Prop where
  | committed {state : Watched} (opened : state.2.opened = true) (closed : state.2.closed = true)
      (unvetoed : state.2.vetoes % 2 ^ 30 = 0) (core : state.1.core = start.core.committed)
      (undisturbed : Undisturbed state.1.conditionalToken state.1.durableState)
      (clear : state.1.usbPublication.active = false ∧ state.1.usbPublication.veto = false) :
      Outcome start room true state
  | refused {state : Watched} (opened : state.2.opened = true) (unfinished : state.2.closed = false)
      (none : state.1.core.StableNone)
      (clear : state.2.vetoes < room →
        state.1.usbPublication.active = false ∧ state.1.usbPublication.veto = false)
      (reason : 0 < state.2.vetoes ∨ ¬Undisturbed start.conditionalToken start.durableState) :
      Outcome start room false state

variable {start : Words}

theorem Outcome.of_finished {later : Watched}
    (there : (Stage.finished start.core.committed).At later) : Outcome start room true later :=
  .committed there.opened there.closed there.fine.1 there.core there.pending there.fine.2

theorem Outcome.of_defeated {now : Core} {later : Watched} (none : now.StableNone)
    (there : (Stage.defeated room now).At later) : Outcome start room false later :=
  .refused there.opened there.closed (there.core ▸ none) there.fine.2 (.inl there.fine.1)

theorem Outcome.of_counting {pending : Pending} {now : Core} {later : Watched}
    (none : now.StableNone) (there : (Stage.counting cut now pending).At later)
    (disturbed : ¬Undisturbed start.conditionalToken start.durableState) :
    Outcome start room false later :=
  .refused there.opened there.closed (there.core ▸ none)
    (fun _ => Stage.counting_clear _ _ there.fine) (.inr disturbed)

/-- The words of a commit that has read its cut and nothing else. -/
def standing (start : Words) : Pending :=
  fun writer token durable => writer = start.writer ∧ token = start.conditionalToken ∧
    durable = start.durableState

/-- What the beginning of the publication comes to. -/
inductive BegunIdentity (cut : BitVec 30) (core : Core) (room : Nat) :
    Option (Option UsbPublicationCut) → Watched → Prop where
  | begun {state : Watched}
      (here : (Stage.publishing { serial := cut + 1, active := true } core).At state) :
      BegunIdentity cut core room (some (some { serial := cut + 1, active := true })) state
  | lost {state : Watched} (here : (Stage.defeated room core).At state) :
      BegunIdentity cut core room .none state

theorem begin_judged (none : core.active = .none)
    (here : (Stage.counting cut core fun _ => Undisturbed).At state) :
    Judged (BegunIdentity cut core room) (beginIdentity .usb { serial := cut }) state := by
  refine Judged.bind ?_
  unfold beginUsbPublication
  rw [if_neg (by simp)]
  refine here.exchange (Stage.counting_fences none)
    (.publishing { serial := cut + 1, active := true } core) Stage.publishing_fences
    (fun later now same _ => ?_) (fun later now => ?_) fun later now missed => ?_
  · have opened := now.opened
    have noted : noteCommit later.1 { later.1 with usbPublication :=
        { serial := cut + 1, active := true } } later.2 = later.2 := by
      cases found : later.2
      simp_all [noteCommit]
    have unvetoed : later.2.vetoes % 2 ^ 30 = 0 := by
      have word := congrArg UsbPublicationCut.serial (now.fine.symm.trans same)
      have zero : BitVec.ofNat 30 later.2.vetoes = 0 := by simpa using word
      simpa using congrArg BitVec.toNat zero
    refine noted.symm ▸
      ⟨opened, now.closed, now.core, now.pending, rfl, fun veto => ?_, fun _ => ?_⟩
    · exact Bool.noConfusion veto
    · exact ⟨rfl, unvetoed⟩
  · exact now.done fun _ there => there.done fun _ there => .begun there
  · have vetoed : 0 < later.2.vetoes := by
      by_contra unvetoed
      refine missed ⟨?_, rfl⟩
      rw [now.fine, Nat.eq_zero_of_not_pos unvetoed]
      simp
    have there : (Stage.defeated room core).At later :=
      ⟨now.opened, now.closed, now.core, now.pending, vetoed,
        fun _ => Stage.counting_clear _ _ now.fine⟩
    exact there.done fun _ there => there.done fun _ there => .lost there

theorem commitIfNone_judged {task : Task} (none : start.core.StableNone)
    (free : start.writer = .none) (settled : publicationBusy start.core.sequence = false)
    (enough : room ≤ turns.count false)
    (here : (Stage.counting cut start.core (standing start)).At state) :
    Judged (Outcome start room) (commitIfNone task .usb { serial := cut } turns) state := by
  have fences {pending : Pending} : (Stage.counting cut start.core pending).Fences :=
    Stage.counting_fences none.2.1
  refine here.change (.counting cut start.core fun _ token durable =>
    token = start.conditionalToken ∧ durable = start.durableState) fences
    (fun later now => ?_) fun later now there => ?_
  · simp only [now.pending.1.trans free]
    exact ⟨trivial, now.opened, now.closed, now.core, now.pending.2, now.fine⟩
  simp only [now.pending.1.trans free, if_true] at there ⊢
  refine (undisturbed_judged start.conditionalToken start.durableState (fun _ _ _ kept => kept)
    Stage.counting_clear none there fences).next fun calm later both => ?_
  obtain ⟨there, undisturbed⟩ := both
  cases calm with
  | false =>
      have disturbed : ¬Undisturbed start.conditionalToken start.durableState :=
        fun calm => Bool.false_ne_true (undisturbed.mpr calm)
      have aside : (Stage.counting cut start.core fun _ _ _ => True).At later :=
        ⟨there.opened, there.closed, there.core, trivial, there.fine⟩
      rw [if_neg Bool.false_ne_true]
      exact (handoff_vacant none.2.1 rfl aside fences).next fun _ later there =>
        there.done fun _ there => .of_counting none there disturbed
  | true =>
      obtain ⟨token, durable⟩ := undisturbed.mp rfl
      have calm : (Stage.counting cut start.core fun _ => Undisturbed).At later :=
        ⟨there.opened, there.closed, there.core,
          ⟨there.pending.1.trans token, there.pending.2.trans durable⟩, there.fine⟩
      rw [if_pos rfl]
      have begins : Judged (BegunIdentity cut start.core room) _ later :=
        begin_judged none.2.1 calm
      refine begins.next fun identity later begun => ?_
      cases begun with
      | lost there =>
          exact (handoff_undisturbed rfl there (Stage.defeated_fences none.2.1)).next
            fun _ later there => there.done fun _ there => .of_defeated none there
      | begun there =>
          refine (publishRoute_judged _ enough there).next fun published later outcome => ?_
          cases outcome with
          | defeated none there => exact there.done fun _ there => .of_defeated none there
          | finished there =>
              refine (snapshot_judged Stage.finished_clear rfl (committed_settled settled) there
                Stage.finished_fences).next fun snapshot later both => ?_
              obtain ⟨there, read⟩ := both
              have same : (snapshot == Snapshot.stable Transport.usb.route
                  (start.core.generation + 1)) = true := by
                rw [read]
                exact beq_self_eq_true _
              rw [same]
              exact there.done fun _ there => .of_finished there

end Commit

/-! ### Between the accesses -/

section Stable

variable {start : Words} {room : Nat} {state later : Watched}

theorem Vetoes.keeps {property : Watched → Prop} (vetoed : Vetoes state later)
    (once : ∀ now, property now → property (vetoOnce now)) (holds : property state) :
    property later := by
  induction vetoed with
  | refl => exact holds
  | tail _ step ih => exact step ▸ once _ ih

theorem veto_closed (watch : Watch) : watch.veto.closed = watch.closed := by
  unfold Watch.veto
  split <;> rfl

theorem veto_opened (watch : Watch) : watch.veto.opened = watch.opened := by
  unfold Watch.veto
  split <;> rfl

theorem veto_of_closed {watch : Watch} (closed : watch.closed = true) : watch.veto = watch :=
  if_neg fun both => by simp [closed] at both

theorem veto_of_unopened {watch : Watch} (unopened : watch.opened = false) : watch.veto = watch :=
  if_neg fun both => by simp [unopened] at both

theorem le_veto (watch : Watch) : watch.vetoes ≤ watch.veto.vetoes := by
  unfold Watch.veto
  split
  · exact Nat.le_succ _
  · exact Nat.le_refl _

theorem Fenced.vetoOnce (fenced : Fenced state) : Fenced (vetoOnce state) where
  publishing closed active := by
    have published := fenced.publishing (veto_closed state.2 ▸ closed) active
    simpa [Route.vetoOnce, UsbPublicationCut.vetoed] using published
  unvetoed closed := by
    have before : state.2.closed = true := veto_closed state.2 ▸ closed
    simpa only [Route.vetoOnce, veto_of_closed before] using fenced.unvetoed before

theorem Outcome.vetoOnce {result : Bool} (outcome : Outcome start room result state) :
    Outcome start room result (vetoOnce state) := by
  cases outcome with
  | committed opened closed unvetoed core undisturbed clear =>
      have same := veto_of_closed closed
      exact .committed (by simpa only [Route.vetoOnce, same]) (by simpa only [Route.vetoOnce, same])
        (by simpa only [Route.vetoOnce, same]) core undisturbed
        (by simp [Route.vetoOnce, UsbPublicationCut.vetoed, clear])
  | refused opened unfinished none clear reason =>
      have more := le_veto state.2
      refine .refused ((veto_opened _).trans opened) ((veto_closed _).trans unfinished) none
        (fun few => ?_) (reason.imp_left fun past => Nat.lt_of_lt_of_le past more)
      obtain ⟨active, veto⟩ := clear (Nat.lt_of_le_of_lt more few)
      simp [Route.vetoOnce, UsbPublicationCut.vetoed, active, veto]

theorem Outcome.opened {result : Bool} (outcome : Outcome start room result state) :
    state.2.opened = true := by
  cases outcome with
  | committed opened => exact opened
  | refused opened => exact opened

end Stable

/-! ### Runs of one commit and any number of vetoes -/

/-- What an access of an operation notes. -/
def note : Operation → Words → Words → Watch → Watch
  | .commitUsbIfNone _ _ => noteCommit
  | .publishUsbLifecycleVeto _ => noteVeto
  | _ => fun _ _ watch => watch

def watchedProgram (task : Task) (operation : Operation) : Program Watched Response :=
  (program task operation).watching (note operation)

abbrev VetoRuns := Config Task Watched Operation Response

/-- The commit that first reads the cut. -/
abbrev commit (turns : List Bool) : Operation := .commitUsbIfNone .none turns

/-- One caller commits, once, and any caller publishes vetoes. -/
inductive CommitAndVetoes (committer : Task) (turns : List Bool) (config : VetoRuns) :
    Label Task Operation → Prop where
  | commit (fresh : config.shared.2.opened = false) :
      CommitAndVetoes committer turns config (.call committer (commit turns))
  | veto (task : Task) (spurious : List Bool) :
      CommitAndVetoes committer turns config (.call task (.publishUsbLifecycleVeto spurious))
  | advance (task : Task) : CommitAndVetoes committer turns config (.advance task)

/-- The route is stable on none and no operation is in progress. -/
structure Vacant (start : Words) : Prop where
  none : start.core.StableNone
  settled : publicationBusy start.core.sequence = false
  free : start.writer = .none
  clear : start.usbPublication.active = false ∧ start.usbPublication.veto = false

/-- The words before the commit has read its cut. -/
structure Ready (start : Words) (state : Watched) : Prop where
  unopened : state.2 = {}
  core : state.1.core = start.core
  standing : standing start state.1.writer state.1.conditionalToken state.1.durableState
  clear : state.1.usbPublication.active = false ∧ state.1.usbPublication.veto = false

def raceRely : Operation → Watched → Watched → Prop
  | .commitUsbIfNone _ _ => Vetoes
  | _ => fun _ _ => True

def raceGuar : Operation → Watched → Watched → Prop
  | .commitUsbIfNone _ _ => FencedStep
  | _ => Vetoes

def racePost (start : Words) (room : Nat) : Operation → Response → Watched → Prop
  | .commitUsbIfNone _ _ => fun answer state =>
      ∃ result, answer = .flag result ∧ Outcome start room result state
  | _ => fun _ _ => True

def raceContract (start : Words) (room : Nat) : Contract Task Watched Operation Response where
  rely _ := raceRely
  guar _ := raceGuar
  post _ := racePost start room
  refl _ operation state := by
    cases operation with
    | commitUsbIfNone => exact Relation.ReflTransGen.refl
    | _ => trivial
  trans _ operation _ _ _ first second := by
    cases operation with
    | commitUsbIfNone => exact Relation.ReflTransGen.trans first second
    | _ => trivial

section Race

variable {start : Words} {room : Nat} {turns : List Bool} {committer : Task} {state later : Watched}

theorem Ready.vetoOnce (ready : Ready start state) : Ready start (vetoOnce state) where
  unopened := (veto_of_unopened (by rw [ready.unopened])).trans ready.unopened
  core := ready.core
  standing := ready.standing
  clear := by simp [Route.vetoOnce, UsbPublicationCut.vetoed, ready.clear]

theorem Ready.stable (ready : Ready start state) (vetoed : Vetoes state later) :
    Ready start later :=
  vetoed.keeps (fun _ ready => ready.vetoOnce) ready

theorem commit_kept (vacant : Vacant start) (enough : room ≤ turns.count false) {task : Task}
    (ready : Ready start state) :
    (raceContract start room).Kept task (commit turns) (watchedProgram task (commit turns))
      state := by
  have wrapped {result : Bool} {now : Watched} (outcome : Outcome start room result now) :
      Judged (racePost start room (commit turns)) (.done (.flag result)) now :=
    fun later vetoed => ⟨result, rfl, vetoed.keeps (fun _ outcome => outcome.vetoOnce) outcome⟩
  have judged : Judged (racePost start room (commit turns))
      (commitUsbIfNone task .none turns >>= fun result => .done (.flag result)) state := by
    refine Judged.bind (Judged.mono (fun result now outcome => wrapped outcome) ?_)
    intro later vetoed
    have now := ready.stable vetoed
    have word : later.1.usbPublication = { serial := later.1.usbPublication.serial } := by
      obtain ⟨active, veto⟩ := now.clear
      cases found : later.1.usbPublication
      simp_all
    have noted : noteCommit later.1 later.1 later.2 = { opened := true } := by
      simp [noteCommit, now.unopened, now.clear]
    have here : (Stage.counting later.1.usbPublication.serial start.core (standing start)).At
        (later.1, noteCommit later.1 later.1 later.2) := by
      rw [noted]
      exact ⟨rfl, rfl, now.core, now.standing, by simpa [Stage.counting] using word⟩
    have begun : commitIfNone task .usb later.1.usbPublication turns =
        commitIfNone task .usb { serial := later.1.usbPublication.serial } turns :=
      congrArg (commitIfNone task .usb · turns) word
    refine ⟨⟨here.fenced (Stage.counting_fences vacant.none.2.1), rfl, fun closed => ?_⟩, ?_⟩
    · simp [now.unopened] at closed
    · have judged : Judged (Outcome start room)
          (commitIfNone task .usb later.1.usbPublication turns)
          (later.1, noteCommit later.1 later.1 later.2) := by
        rw [begun]
        exact commitIfNone_judged vacant.none vacant.free vacant.settled enough here
      exact judged
  exact judged

theorem vetoed_ne (word : UsbPublicationCut) : word.vetoed ≠ word := by
  intro same
  have serial := congrArg UsbPublicationCut.serial same
  simp [UsbPublicationCut.vetoed, UsbPublicationCut.next] at serial

theorem vetoTurns_each (spurious : List Bool) (observed : UsbPublicationCut) :
    (vetoTurns spurious observed).Each fun before after => after = before ∨
      after = { before with usbPublication := before.usbPublication.vetoed } := by
  induction spurious generalizing observed with
  | nil => trivial
  | cons fails spurious ih =>
      refine .bind (.readModifyWrite fun words => ?_) fun exchange => ?_
      · split
        case isTrue same => exact .inr (by rw [same.1])
        case isFalse => exact .inl rfl
      · split
        · trivial
        · exact ih _

theorem veto_kept {task : Task} (spurious : List Bool) :
    (raceContract start room).Kept task (.publishUsbLifecycleVeto spurious)
      (watchedProgram task (.publishUsbLifecycleVeto spurious)) state := by
  have each : (program task (.publishUsbLifecycleVeto spurious)).Each fun before after =>
      after = before ∨ after = { before with usbPublication := before.usbPublication.vetoed } :=
    .bind (.bind (.read (fun _ => .inl rfl) _) fun _ => vetoTurns_each _ _) fun _ => trivial
  have safe : (watchedProgram task (.publishUsbLifecycleVeto spurious)).Safe (fun _ _ => True)
      Vetoes (fun _ _ => True) state := by
    refine each.watching.safe (fun _ _ _ _ => trivial) (fun before after _ step => ⟨?_, trivial⟩)
      trivial
    obtain ⟨changed, noted⟩ := step
    rcases changed with same | vetoed
    · have unchanged : after = before := by
        refine Prod.ext same (noted.trans ?_)
        simp [note, noteVeto, same]
      exact unchanged ▸ .refl
    · refine .single (Prod.ext vetoed (noted.trans ?_))
      simp [note, noteVeto, vetoed, vetoed_ne, Route.vetoOnce]
  exact safe

/-- What holds throughout a run. -/
structure Racing (committer : Task) (turns : List Bool) (start : Words) (room : Nat)
    (config : VetoRuns) : Prop where
  running : (raceContract start room).Conforms config
  fenced : Fenced config.shared
  ready : config.shared.2.opened = false → Ready start config.shared
  only : ∀ task operation call, config.running task = some (operation, call) →
    operation = commit turns ∧ task = committer ∨
      ∃ spurious, operation = .publishUsbLifecycleVeto spurious
  answered : ∀ answer, (committer, commit turns, answer) ∈ config.history →
    racePost start room (commit turns) answer config.shared ∧
      ∀ call, config.running committer ≠ some (commit turns, call)

theorem racing_initial (vacant : Vacant start) :
    Racing committer turns start room (Config.initial (start, {})) where
  running := Contract.conforms_initial _
  fenced := ⟨fun _ active => by simp [Config.initial, vacant.none.2.1] at active,
    fun closed => by simp [Config.initial] at closed⟩
  ready _ := ⟨rfl, rfl, ⟨rfl, rfl, rfl⟩, vacant.clear⟩
  only task operation call running := by simp [Config.initial] at running
  answered answer member := by simp [Config.initial] at member

/-- One step of the commit or of a veto. -/
theorem Racing.step (vacant : Vacant start) (enough : room ≤ turns.count false)
    {config next : VetoRuns} {label : Label Task Operation}
    (racing : Racing committer turns start room config)
    (admitted : CommitAndVetoes committer turns config label)
    (stepped : config.step watchedProgram label = some next) :
    Racing committer turns start room next ∧
      (config.shared.2.closed = true → next.shared.2.closed = true) := by
  obtain ⟨running, changed⟩ := racing.running.step
    (fun task operation called _ => by
      subst called
      cases admitted with
      | commit fresh => exact commit_kept vacant enough (racing.ready fresh)
      | veto task spurious => exact veto_kept spurious)
    (fun task operation update rest other operation' call' _ different found there after
        promise => by
      rcases racing.only _ _ _ there with ⟨rfl, rfl⟩ | ⟨spurious, rfl⟩
      · rcases racing.only _ _ _ found with ⟨-, same⟩ | ⟨spurious, rfl⟩
        · exact absurd same different
        · exact promise
      · trivial) stepped
  -- What the access did to the words, and that it was none of the commit once that has returned.
  have moved : next.shared = config.shared ∨ Vetoes config.shared next.shared ∨
      FencedStep config.shared next.shared ∧
        ∃ call, config.running committer = some (commit turns, call) := by
    rcases changed with same | ⟨task, operation, call, found, promise⟩
    · exact .inl same
    · rcases racing.only _ _ _ found with ⟨rfl, rfl⟩ | ⟨spurious, rfl⟩
      · exact .inr (.inr ⟨promise, call, found⟩)
      · exact .inr (.inl promise)
  have post {answer : Response} (old : racePost start room (commit turns) answer config.shared)
      (idle : ∀ call, config.running committer ≠ some (commit turns, call)) :
      racePost start room (commit turns) answer next.shared := by
    rcases moved with same | vetoed | ⟨-, call, found⟩
    · exact same ▸ old
    · obtain ⟨result, answer, outcome⟩ := old
      exact ⟨result, answer, vetoed.keeps (fun _ outcome => outcome.vetoOnce) outcome⟩
    · exact absurd found (idle call)
  refine ⟨⟨running, ?_, fun unopened => ?_, ?_, ?_⟩, fun closed => ?_⟩
  · rcases moved with same | vetoed | ⟨access, -⟩
    · exact same ▸ racing.fenced
    · exact vetoed.keeps (fun _ fenced => fenced.vetoOnce) racing.fenced
    · exact access.fenced
  · rcases moved with same | vetoed | ⟨access, -⟩
    · exact same ▸ racing.ready (same ▸ unopened)
    · refine (racing.ready ?_).stable vetoed
      by_contra opened
      have still : next.shared.2.opened = true :=
        vetoed.keeps (fun now opened => (veto_opened now.2).trans opened) (by simpa using opened)
      simp [still] at unopened
    · simp [access.opened] at unopened
  · refine Config.running_of_step racing.only (fun task operation called => ?_)
      (fun _ _ _ _ kept => kept) stepped
    subst called
    cases admitted with
    | commit => exact .inl ⟨rfl, rfl⟩
    | veto _ spurious => exact .inr ⟨spurious, rfl⟩
  · intro answer member
    rcases Config.step_cases stepped with
      ⟨task, operation, rfl, idle, rfl⟩ | ⟨task, operation, update, rest, rfl, before, rfl⟩ |
        ⟨task, operation, result, rfl, before, rfl⟩
    · obtain ⟨old, other⟩ := racing.answered answer member
      refine ⟨post old other, fun call found => ?_⟩
      by_cases same : committer = task
      · subst same
        simp only [Function.update_self, Option.some.injEq, Prod.mk.injEq] at found
        obtain ⟨rfl, -⟩ := found
        -- A commit that has returned has read its cut, so it is not called again.
        obtain ⟨result, -, outcome⟩ := old
        cases admitted with
        | commit fresh => simp [outcome.opened] at fresh
      · exact other call (by simpa only [Function.update_of_ne same] using found)
    · obtain ⟨old, other⟩ := racing.answered answer member
      refine ⟨post old other, fun call found => ?_⟩
      by_cases same : committer = task
      · subst same
        simp only [Function.update_self, Option.some.injEq, Prod.mk.injEq] at found
        obtain ⟨rfl, -⟩ := found
        exact other _ before
      · exact other call (by simpa only [Function.update_of_ne same] using found)
    · rcases List.mem_cons.mp member with new | member
      · simp only [Prod.mk.injEq] at new
        obtain ⟨rfl, rfl, rfl⟩ := new
        exact ⟨racing.running.returned before, fun call found => by simp at found⟩
      · obtain ⟨old, other⟩ := racing.answered answer member
        refine ⟨post old other, fun call found => ?_⟩
        by_cases same : committer = task
        · subst same
          simp at found
        · exact other call (by simpa only [Function.update_of_ne same] using found)
  · rcases moved with same | vetoed | ⟨access, -⟩
    · exact same ▸ closed
    · exact vetoed.keeps (fun now closed => (veto_closed now.2).trans closed) closed
    · exact access.closed closed

theorem Racing.run (vacant : Vacant start) (enough : room ≤ turns.count false)
    {config later : VetoRuns} (racing : Racing committer turns start room config)
    (reached : Reaches watchedProgram (CommitAndVetoes committer turns) config later) :
    Racing committer turns start room later ∧
      (config.shared.2.closed = true → later.shared.2.closed = true) := by
  induction reached with
  | refl => exact ⟨racing, id⟩
  | step label _ admitted stepped ih =>
      obtain ⟨racing, closed⟩ := ih
      obtain ⟨racing, further⟩ := racing.step vacant enough admitted stepped
      exact ⟨racing, fun before => further (closed before)⟩

/-! ### The veto wins -/

theorem pending_loads : invalidationPending.Loads := by
  refine .bind (.read _) fun publication => .ite (.done _) (.bind (.read _) fun token =>
    .ite (.done _) (.bind (.read _) fun durable => .done _))

theorem matchesRoute_fenced {generation : Generation} (fenced : Fenced state)
    (unfinished : state.2.closed = false) :
    (matchesRoute .usb generation).value state.1 = false := by
  by_cases active : state.1.core.active = .usb
  · have published := fenced.publishing unfinished active
    simp [matchesRoute, invalidationPending, Program.value, Program.exec_bind, published]
  · rw [matchesRoute, pending_loads.value_bind]
    cases invalidationPending.value state.1 <;> simp [active]

theorem matchesRoute_committed (core : state.1.core = start.core.committed)
    (undisturbed : Undisturbed state.1.conditionalToken state.1.durableState)
    (clear : state.1.usbPublication.active = false ∧ state.1.usbPublication.veto = false) :
    (matchesRoute .usb (start.core.generation + 1)).value state.1 = true := by
  obtain ⟨token, durable⟩ := undisturbed
  simp [matchesRoute, invalidationPending, invalidationPendingWithoutUsbPublication, Program.value,
    Program.exec_bind, clear, token, durable, core, Core.committed]

end Race

/-- One commit from these words against vetoes from any caller, in any order of accesses. The
`turns` are those of the loop that clears the publication word, each with whether its weak exchange
fails spuriously; with more turns that do not than there are vetoes, they never run out. -/
structure VetoBeatsPublication (start : Words) : Prop where
  /-- A veto in the window defeats the commit at every step. -/
  fenced : ∀ committer turns middle config,
    Reaches watchedProgram (CommitAndVetoes committer turns) (Config.initial (start, {})) middle →
    Reaches watchedProgram (CommitAndVetoes committer turns) middle config →
    0 < config.shared.2.vetoes → config.shared.2.vetoes < 2 ^ 30 →
      ∀ generation, (matchesRoute .usb generation).value middle.shared.1 = false
  /-- It is refused, and leaves nothing published. -/
  refused : ∀ committer turns config answer,
    Reaches watchedProgram (CommitAndVetoes committer turns) (Config.initial (start, {})) config →
    0 < config.shared.2.vetoes → config.shared.2.vetoes < 2 ^ 30 →
    (committer, commit turns, answer) ∈ config.history →
      answer = .flag false ∧ config.shared.1.core.StableNone ∧
        (config.shared.2.vetoes < turns.count false →
          config.shared.1.usbPublication.active = false ∧
            config.shared.1.usbPublication.veto = false)
  /-- Without one, and with nothing else pending, the route is committed. -/
  committed : ∀ committer turns config answer,
    Reaches watchedProgram (CommitAndVetoes committer turns) (Config.initial (start, {})) config →
    config.shared.2.vetoes = 0 → Undisturbed start.conditionalToken start.durableState →
    (committer, commit turns, answer) ∈ config.history →
      answer = .flag true ∧ config.shared.1.core = start.core.committed ∧
        (matchesRoute .usb (start.core.generation + 1)).value config.shared.1 = true

theorem veto_beats_publication {start : Words} (vacant : Vacant start) :
    VetoBeatsPublication start where
  fenced committer turns middle config first second past few generation := by
    obtain ⟨racing, -⟩ := (racing_initial vacant).run vacant (le_refl _) first
    obtain ⟨later, closed⟩ := racing.run vacant (le_refl _) second
    refine matchesRoute_fenced racing.fenced ?_
    by_contra finished
    have unvetoed := later.fenced.unvetoed (closed (by simpa using finished))
    omega
  refused committer turns config answer reached past few member := by
    obtain ⟨racing, -⟩ := (racing_initial vacant).run vacant (le_refl _) reached
    obtain ⟨result, rfl, outcome⟩ := (racing.answered answer member).1
    cases outcome with
    | committed _ _ unvetoed => omega
    | refused _ _ none clear _ => exact ⟨rfl, none, clear⟩
  committed committer turns config answer reached unvetoed undisturbed member := by
    obtain ⟨racing, -⟩ := (racing_initial vacant).run vacant (le_refl _) reached
    obtain ⟨result, rfl, outcome⟩ := (racing.answered answer member).1
    cases outcome with
    | committed _ _ _ core undisturbed clear =>
        exact ⟨rfl, core, matchesRoute_committed core undisturbed clear⟩
    | refused _ _ _ _ reason =>
        rcases reason with past | disturbed
        · omega
        · exact absurd undisturbed disturbed

/-! ### Two runs -/

/-- One order of accesses after the call of the commit. -/
theorem reaches_of_commit {committer : Task} {turns : List Bool} {start : Words}
    {labels : List (Label Task Operation)} {config : VetoRuns}
    (admitted : ∀ label ∈ labels, ∀ config, CommitAndVetoes committer turns config label)
    (replayed : replay watchedProgram (.call committer (commit turns) :: labels)
      (Config.initial (start, {})) = some config) :
    Reaches watchedProgram (CommitAndVetoes committer turns) (Config.initial (start, {}))
      config := by
  obtain ⟨called, stepped, rest⟩ := Option.bind_eq_some_iff.mp replayed
  have first : Reaches watchedProgram (CommitAndVetoes committer turns)
      (Config.initial (start, {})) called := .step _ .refl (.commit rfl) stepped
  exact first.trans (.of_replay admitted rest)

/-- A route on BLE. -/
def onBle : Words := { core := { generation := 1, desired := .ble, active := .ble } }

/-- **A commit of USB is refused where a route is active**, without any veto. -/
theorem commit_refused_on_ble : ¬∀ start, VetoBeatsPublication start := by
  intro wins
  have final : (replay watchedProgram (.call 0 (commit []) :: List.replicate 10 (.advance 0))
      (Config.initial (onBle, {}))).map (fun config => (config.shared.2.vetoes, config.history)) =
        some (0, [(0, commit [], .flag false)]) := by
    decide +kernel
  obtain ⟨config, replayed, observed⟩ := Option.map_eq_some_iff.mp final
  simp only [Prod.mk.injEq] at observed
  obtain ⟨unvetoed, answered⟩ := observed
  have reached := reaches_of_commit (fun label member config => by
    obtain rfl := List.eq_of_mem_replicate member
    exact .advance 0) replayed
  have committed := (wins onBle).committed 0 [] config (.flag false) reached unvetoed ⟨rfl, rfl⟩
    (by simp [answered])
  exact absurd committed.1 (by decide)

/-- A veto between the stores of the route and the exchange that finishes the publication. -/
def vetoBeforeFinish : List (Label Task Operation) :=
  List.replicate 17 (.advance 0) ++ .call 1 (.publishUsbLifecycleVeto [false]) ::
    List.replicate 3 (.advance 1) ++ List.replicate 16 (.advance 0)

theorem veto_beats_publication_before_finish : ∃ config : VetoRuns,
    config.shared.2.vetoes = 1 ∧ (0, commit [false, false], .flag false) ∈ config.history ∧
      config.shared.1.core.generation = 2 ∧ config.shared.1.core.StableNone ∧
        config.shared.1.usbPublication.active = false := by
  have final : (replay watchedProgram (.call 0 (commit [false, false]) :: vetoBeforeFinish)
      (Config.initial ({}, {}))).map (fun config =>
        (config.shared.2.vetoes, config.shared.1.core.generation, config.history)) =
          some (1, 2, [(0, commit [false, false], .flag false),
            (1, .publishUsbLifecycleVeto [false], .done)]) := by
    decide +kernel
  obtain ⟨config, replayed, observed⟩ := Option.map_eq_some_iff.mp final
  simp only [Prod.mk.injEq] at observed
  obtain ⟨vetoed, generation, answered⟩ := observed
  have member : (0, commit [false, false], .flag false) ∈ config.history := by simp [answered]
  have reached := reaches_of_commit (fun label member config => by
    simp only [vetoBeforeFinish, List.mem_append, List.mem_cons, List.mem_replicate] at member
    rcases member with (⟨-, rfl⟩ | rfl | ⟨-, rfl⟩) | ⟨-, rfl⟩
    · exact .advance 0
    · exact .veto 1 [false]
    · exact .advance 1
    · exact .advance 0) replayed
  have vacant : Vacant {} := ⟨⟨rfl, rfl, rfl⟩, rfl, rfl, rfl, rfl⟩
  have wins := veto_beats_publication vacant
  obtain ⟨-, none, clear⟩ := wins.refused 0 [false, false] config (.flag false) reached (by omega)
    (by omega) member
  exact ⟨config, vetoed, member, generation, none, (clear (by simp [vetoed])).1⟩

end HidBot.Route
