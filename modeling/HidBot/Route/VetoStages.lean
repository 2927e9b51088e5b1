import HidBot.Interleaving.Watched
import HidBot.Route.Machine
import Mathlib.Logic.Relation

/-!
# Vetoes against a USB publication

One caller reads the publication cut and commits the USB route, while others
publish lifecycle vetoes. A history variable counts the vetoes that take effect
between the reading of the cut and the exchange that finishes the publication.
A veto there defeats the commit, whichever of its accesses it falls between.
-/

namespace HidBot.Route

open Interleaving

/-! ### The window of a commit -/

/-- What a run remembers of the commit and the vetoes. -/
structure Watch where
  /-- The commit has read its cut. -/
  opened : Bool := false
  /-- The commit has made the exchange that finishes its publication. -/
  closed : Bool := false
  /-- The vetoes that have taken effect in between. -/
  vetoes : Nat := 0
  deriving DecidableEq, Repr

abbrev Watched := Words × Watch

def Watch.veto (watch : Watch) : Watch :=
  if watch.opened = true ∧ watch.closed = false then
    { watch with vetoes := watch.vetoes + 1 }
  else watch

/-- An access of the commit. Only `finish_usb_publication` ends a publication while
the route is active. -/
def noteCommit (before after : Words) (watch : Watch) : Watch :=
  { watch with
    opened := true
    closed := watch.closed || (before.usbPublication.active && !after.usbPublication.active &&
      before.core.active == .usb) }

/-- An access of a veto, which takes effect if it changes the publication word. -/
def noteVeto (before after : Words) (watch : Watch) : Watch :=
  if after.usbPublication = before.usbPublication then watch else watch.veto

/-- The words after one more veto. -/
def vetoOnce (state : Watched) : Watched :=
  ({ state.1 with usbPublication := state.1.usbPublication.vetoed }, state.2.veto)

/-- What the vetoes do between two accesses of the commit. -/
def Vetoes : Watched → Watched → Prop :=
  Relation.ReflTransGen fun before after => after = vetoOnce before

/-- A route that is active on USB is fenced by its publication until that is finished, and
that happens only without a veto. -/
structure Fenced (state : Watched) : Prop where
  publishing : state.2.closed = false → state.1.core.active = .usb →
    state.1.usbPublication.active = true
  unvetoed : state.2.closed = true → state.2.vetoes % 2 ^ 30 = 0

/-- What an access of the commit leaves behind. -/
structure FencedStep (before after : Watched) : Prop where
  fenced : Fenced after
  opened : after.2.opened = true
  closed : before.2.closed = true → after.2.closed = true

/-! ### Stages of a commit -/

/-- What is known of the writer and of the invalidations. -/
abbrev Pending := Option Task → ConditionalInvalidationToken → DurableState → Prop

/-- What is known at a point of the commit: the route words, and what vetoes do not spoil of the
publication word and of the number of vetoes in the window. -/
structure Stage where
  core : Core
  closed : Bool
  pending : Pending
  fine : UsbPublicationCut → Nat → Prop
  lasts : ∀ {cut : UsbPublicationCut} {vetoes : Nat}, fine cut vetoes →
    fine cut.vetoed (if closed = true then vetoes else vetoes + 1)

namespace Stage

structure At (stage : Stage) (state : Watched) : Prop where
  opened : state.2.opened = true
  closed : state.2.closed = stage.closed
  core : state.1.core = stage.core
  pending : stage.pending state.1.writer state.1.conditionalToken state.1.durableState
  fine : stage.fine state.1.usbPublication state.2.vetoes

structure Fences (stage : Stage) : Prop where
  publishing : stage.closed = false → stage.core.active = .usb →
    ∀ cut vetoes, stage.fine cut vetoes → cut.active = true
  unvetoed : stage.closed = true → ∀ cut vetoes, stage.fine cut vetoes → vetoes % 2 ^ 30 = 0

variable {stage : Stage} {state later : Watched} {α β : Type} {post : α → Watched → Prop}

theorem At.fenced (here : stage.At state) (fences : stage.Fences) : Fenced state where
  publishing closed active :=
    fences.publishing (here.closed ▸ closed) (here.core ▸ active) _ _ here.fine
  unvetoed closed := fences.unvetoed (here.closed ▸ closed) _ _ here.fine

theorem At.vetoOnce (here : stage.At state) : stage.At (vetoOnce state) := by
  have lasts := stage.lasts here.fine
  cases closed : stage.closed with
  | false =>
      have unfinished : state.2.closed = false := here.closed.trans closed
      have counted : state.2.veto = { state.2 with vetoes := state.2.vetoes + 1 } :=
        if_pos ⟨here.opened, unfinished⟩
      simp only [closed, Bool.false_eq_true, if_false] at lasts
      exact ⟨by simp [Route.vetoOnce, counted, here.opened],
        by simp [Route.vetoOnce, counted, unfinished, closed], here.core, here.pending,
        by simpa [Route.vetoOnce, counted] using lasts⟩
  | true =>
      have shut : state.2.closed = true := here.closed.trans closed
      have counted : state.2.veto = state.2 := if_neg fun both => by simp [shut] at both
      simp only [closed, if_true] at lasts
      exact ⟨by simp [Route.vetoOnce, counted, here.opened],
        by simp [Route.vetoOnce, counted, shut, closed], here.core, here.pending,
        by simpa [Route.vetoOnce, counted] using lasts⟩

theorem At.stable (here : stage.At state) (vetoed : Vetoes state later) : stage.At later := by
  induction vetoed with
  | refl => exact here
  | tail _ once ih => exact once ▸ ih.vetoOnce

/-- An access that leaves the publication word alone notes nothing new. -/
theorem At.note (here : stage.At state) {after : Words}
    (same : after.usbPublication = state.1.usbPublication) :
    noteCommit state.1 after state.2 = state.2 := by
  have opened := here.opened
  cases found : state.2
  simp_all [noteCommit]

theorem At.step {after : Stage} {words : Words} (here : stage.At state)
    (same : words.usbPublication = state.1.usbPublication) (there : after.At (words, state.2))
    (fences : after.Fences) : FencedStep state (words, noteCommit state.1 words state.2) := by
  rw [here.note same]
  exact ⟨there.fenced fences, there.opened, id⟩

end Stage

/-- The rest of the commit keeps the route fenced, and `post` holds at its return. -/
def Judged {α : Type} (post : α → Watched → Prop) (call : Program Words α)
    (state : Watched) : Prop :=
  (call.watching noteCommit).Safe Vetoes FencedStep post state

section Judged

variable {stage : Stage} {state : Watched} {α β : Type} {post : α → Watched → Prop}
  {last : β → Watched → Prop}

theorem Judged.bind {call : Program Words α} {rest : α → Program Words β}
    (judged : Judged (fun result later => Judged last (rest result) later) call state) :
    Judged last (call >>= rest) state := by
  unfold Judged
  rw [Program.watching_bind]
  exact Program.Safe.bind (fun _ => .refl) judged

theorem Judged.next {first : α → Watched → Prop} {call : Program Words α}
    {rest : α → Program Words β} (judged : Judged first call state)
    (later : ∀ result now, first result now → Judged last (rest result) now) :
    Judged last (call >>= rest) state :=
  .bind (Program.Safe.mono later judged)

theorem Judged.mono {weaker : α → Watched → Prop} {call : Program Words α}
    (weaken : ∀ result later, post result later → weaker result later)
    (judged : Judged post call state) : Judged weaker call state :=
  Program.Safe.mono weaken judged

namespace Stage

theorem At.done {result : α} (here : stage.At state)
    (holds : ∀ later, stage.At later → post result later) : Judged post (.done result) state :=
  fun later vetoed => holds later (here.stable vetoed)

theorem At.read {view : Words → α} {rest : α → Program Words β} (here : stage.At state)
    (fences : stage.Fences)
    (next : ∀ later, stage.At later → Judged last (rest (view later.1)) later) :
    Judged last (Program.read view >>= rest) state := by
  intro later vetoed
  have now := here.stable vetoed
  have judged : Judged last (rest (view later.1)) (later.1, noteCommit later.1 later.1 later.2) :=
    (now.note rfl).symm ▸ next later now
  exact ⟨now.step rfl now fences, judged⟩

/-- An access of the commit that leaves the publication word alone. -/
theorem At.change {change : Words → α × Words} {rest : α → Program Words β}
    (here : stage.At state) (after : Stage) (fences : after.Fences)
    (kept : ∀ later, stage.At later →
      (change later.1).2.usbPublication = later.1.usbPublication ∧
        after.At ((change later.1).2, later.2))
    (next : ∀ later, stage.At later → after.At ((change later.1).2, later.2) →
      Judged last (rest (change later.1).1) ((change later.1).2, later.2)) :
    Judged last (Program.readModifyWrite change >>= rest) state := by
  intro later vetoed
  have now := here.stable vetoed
  obtain ⟨same, there⟩ := kept later now
  have judged : Judged last (rest (change later.1).1)
      ((change later.1).2, noteCommit later.1 (change later.1).2 later.2) :=
    (now.note same).symm ▸ next later now there
  exact ⟨now.step same there fences, judged⟩

/-- The same route words with others. -/
def withCore (stage : Stage) (core : Core) : Stage := { stage with core }

theorem At.onCore {change : Core → Core} {rest : Unit → Program Words β}
    (here : stage.At state) (fences : (stage.withCore (change stage.core)).Fences)
    (next : ∀ later, (stage.withCore (change stage.core)).At later →
      Judged last (rest ()) later) :
    Judged last (onCore change >>= rest) state := by
  intro later vetoed
  have now := here.stable vetoed
  have there : (stage.withCore (change stage.core)).At
      ({ later.1 with core := change later.1.core }, later.2) :=
    ⟨now.opened, now.closed, congrArg change now.core, now.pending, now.fine⟩
  have judged : Judged last (rest ()) ({ later.1 with core := change later.1.core },
      noteCommit later.1 { later.1 with core := change later.1.core } later.2) :=
    (now.note rfl).symm ▸ next _ there
  exact ⟨now.step rfl there fences, judged⟩

end Stage

end Judged

/-! ### The stages -/

/-- Nothing but a USB publication is pending. -/
def Undisturbed (token : ConditionalInvalidationToken) (durable : DurableState) : Prop :=
  token = noConditionalInvalidationToken ∧ durable = .none

namespace Stage

/-- The cut has been read, and nothing is published. -/
def counting (cut : BitVec 30) (core : Core) (pending : Pending) : Stage where
  core
  closed := false
  pending
  fine word vetoes := word = { serial := cut + BitVec.ofNat 30 vetoes }
  lasts := by
    rintro word vetoes rfl
    simp [UsbPublicationCut.vetoed, UsbPublicationCut.next, BitVec.ofNat_add, BitVec.add_assoc]

/-- The publication has begun. -/
def publishing (identity : UsbPublicationCut) (core : Core) : Stage where
  core
  closed := false
  pending _ := Undisturbed
  fine word vetoes := word.active = true ∧ (word.veto = true → 0 < vetoes) ∧
    (word.veto = false → word = identity ∧ vetoes % 2 ^ 30 = 0)
  lasts := by
    rintro word vetoes ⟨active, -, -⟩
    simp [UsbPublicationCut.vetoed, active]

/-- A veto has been seen, and the publication word has yet to be cleared. The caller has read
`observed` after `seen` vetoes. -/
def beaten (observed : UsbPublicationCut) (seen : Nat) (core : Core) : Stage where
  core
  closed := false
  pending _ := Undisturbed
  fine word vetoes := word.active = true ∧ 0 < vetoes ∧ seen ≤ vetoes ∧
    (word = observed ∨ seen < vetoes)
  lasts := by
    rintro word vetoes ⟨active, -, past, -⟩
    exact ⟨by simp [UsbPublicationCut.vetoed, active], Nat.succ_pos _, Nat.le_succ_of_le past,
      .inr (Nat.lt_succ_of_le past)⟩

/-- The publication word is clear, unless the vetoes have outlasted the turns. -/
def defeated (room : Nat) (core : Core) : Stage where
  core
  closed := false
  pending _ := Undisturbed
  fine word vetoes := 0 < vetoes ∧ (vetoes < room → word.active = false ∧ word.veto = false)
  lasts := by
    rintro word vetoes ⟨-, clear⟩
    refine ⟨Nat.succ_pos _, fun more => ?_⟩
    obtain ⟨active, veto⟩ := clear (Nat.lt_of_succ_lt more)
    simp [UsbPublicationCut.vetoed, active, veto]

/-- The publication is finished. -/
def finished (core : Core) : Stage where
  core
  closed := true
  pending _ := Undisturbed
  fine word vetoes := vetoes % 2 ^ 30 = 0 ∧ word.active = false ∧ word.veto = false
  lasts := by
    rintro word vetoes ⟨unvetoed, active, veto⟩
    exact ⟨unvetoed, by simp [UsbPublicationCut.vetoed, active, veto]⟩

variable {core : Core} {cut : BitVec 30} {room seen : Nat} {observed identity : UsbPublicationCut}
  {pending : Pending}

theorem counting_fences (vacant : core.active = .none) : (counting cut core pending).Fences where
  publishing _ active := by simp [counting, vacant] at active
  unvetoed closed := by simp [counting] at closed

theorem publishing_fences : (publishing identity core).Fences where
  publishing _ _ _ _ fine := fine.1
  unvetoed closed := by simp [publishing] at closed

theorem beaten_fences : (beaten observed seen core).Fences where
  publishing _ _ _ _ fine := fine.1
  unvetoed closed := by simp [beaten] at closed

theorem defeated_fences (vacant : core.active = .none) : (defeated room core).Fences where
  publishing _ active := by simp [defeated, vacant] at active
  unvetoed closed := by simp [defeated] at closed

theorem finished_fences : (finished core).Fences where
  publishing closed := by simp [finished] at closed
  unvetoed _ _ _ fine := fine.1

end Stage

/-! ### Exchanges of the publication word -/

section Exchange

variable {stage : Stage} {state : Watched} {β : Type} {last : β → Watched → Prop}

theorem Stage.At.exchange {spurious : Bool} {observed replacement : UsbPublicationCut}
    {rest : Bool × UsbPublicationCut → Program Words β} (here : stage.At state)
    (fences : stage.Fences) (after : Stage) (fenced : after.Fences)
    (succeeded : ∀ later, stage.At later → later.1.usbPublication = observed →
      spurious = false → after.At ({ later.1 with usbPublication := replacement },
        noteCommit later.1 { later.1 with usbPublication := replacement } later.2))
    (won : ∀ later, after.At later → Judged last (rest (true, observed)) later)
    (failed : ∀ later, stage.At later → ¬(later.1.usbPublication = observed ∧ spurious = false) →
      Judged last (rest (false, later.1.usbPublication)) later) :
    Judged last (exchangePublication spurious observed replacement >>= rest) state := by
  intro later vetoed
  have now := here.stable vetoed
  by_cases same : later.1.usbPublication = observed ∧ spurious = false
  · have there := succeeded later now same.1 same.2
    have judged := won _ there
    simp only [same, and_self, if_true]
    exact ⟨⟨there.fenced fenced, rfl, fun closed => by simp [noteCommit, closed]⟩, judged⟩
  · have judged : Judged last (rest (false, later.1.usbPublication))
        (later.1, noteCommit later.1 later.1 later.2) :=
      (now.note rfl).symm ▸ failed later now same
    simp only [same, if_false]
    exact ⟨now.step rfl now fences, judged⟩

end Exchange

/-! ### Clearing the publication word -/

section Clear

variable {core : Core} {room : Nat} {state : Watched}

theorem clearTurns_judged (vacant : core.active = .none) {turns : List Bool}
    {observed : UsbPublicationCut} {seen : Nat} (active : observed.active = true)
    (enough : room ≤ seen + turns.count false) (here : (Stage.beaten observed seen core).At state) :
    Judged (fun _ later => (Stage.defeated room core).At later) (clearTurns turns observed)
      state := by
  induction turns generalizing observed seen state with
  | nil =>
      refine here.done fun later now => ⟨now.opened, now.closed, now.core, now.pending, ?_⟩
      obtain ⟨-, past, least, -⟩ := now.fine
      exact ⟨past, fun more => absurd (Nat.lt_of_lt_of_le more (by simpa using enough))
        (Nat.not_lt_of_le least)⟩
  | cons spurious turns ih =>
      unfold clearTurns
      rw [if_pos active]
      refine here.exchange Stage.beaten_fences (.defeated room core)
        (Stage.defeated_fences vacant) (fun later now same _ => ?_) (fun later now => ?_)
        fun later now missed => ?_
      · have noted : noteCommit later.1 { later.1 with usbPublication := observed.next } later.2 =
            later.2 := by
          have usb : later.1.core.active ≠ .usb := by simp [now.core, Stage.beaten, vacant]
          have opened := now.opened
          cases found : later.2
          simp_all [noteCommit]
        rw [noted]
        exact ⟨now.opened, now.closed, now.core, now.pending, now.fine.2.1,
          fun _ => by simp [UsbPublicationCut.next]⟩
      · exact now.done fun later there => there
      · obtain ⟨live, past, least, moved⟩ := now.fine
        refine ih live ?_ ⟨now.opened, now.closed, now.core, now.pending, live, past, le_refl _,
          .inl rfl⟩
        cases spurious with
        | true => simp only [List.count_cons, Bool.true_beq, Bool.false_eq_true, if_false] at enough
                  omega
        | false =>
            have more : seen < later.2.vetoes := moved.resolve_left fun same => missed ⟨same, rfl⟩
            simp only [List.count_cons, BEq.rfl, if_true] at enough
            omega

/-- A word that is active after a veto can be cleared. -/
theorem clearUsbPublication_judged (vacant : core.active = .none) {turns : List Bool}
    {observed : UsbPublicationCut} {seen : Nat} (enough : room ≤ turns.count false)
    (here : (Stage.beaten observed seen core).At state) :
    Judged (fun _ later => (Stage.defeated room core).At later) (clearUsbPublication turns)
      state := by
  refine here.read Stage.beaten_fences fun later now => ?_
  obtain ⟨live, past, -, -⟩ := now.fine
  exact clearTurns_judged vacant live (Nat.le_add_left_of_le enough)
    ⟨now.opened, now.closed, now.core, now.pending, live, past, le_refl _, .inl rfl⟩

end Clear

/-! ### The handoff -/

section Handoff

variable {stage : Stage} {state : Watched}

theorem Stage.At.store {update : Words → Words} (here : stage.At state) (fences : stage.Fences)
    (kept : ∀ later, stage.At later →
      (update later.1).usbPublication = later.1.usbPublication ∧
        stage.At (update later.1, later.2)) :
    Judged (fun _ later => stage.At later) (.write update) state := by
  intro later vetoed
  have now := here.stable vetoed
  obtain ⟨same, there⟩ := kept later now
  have after : stage.At (update later.1, noteCommit later.1 (update later.1) later.2) :=
    (now.note same).symm ▸ there
  exact ⟨now.step same there fences, fun last more => after.stable more⟩

theorem leaveWriter_judged (here : stage.At state) (fences : stage.Fences)
    (free : ∀ writer other token durable, stage.pending writer token durable →
      stage.pending other token durable) :
    Judged (fun _ later => stage.At later) leaveWriter state :=
  here.store fences fun _ now =>
    ⟨rfl, now.opened, now.closed, now.core, free _ _ _ _ now.pending, now.fine⟩

/-- The handoff with nothing to hand over. -/
theorem handoff_undisturbed (calm : stage.pending = fun _ => Undisturbed) (here : stage.At state)
    (fences : stage.Fences) :
    Judged (fun _ later => stage.At later) leaveWriterWithHandoff state := by
  have quiet {later : Watched} (now : stage.At later) :
      Undisturbed later.1.conditionalToken later.1.durableState := by
    simpa only [calm] using now.pending
  have durable : Judged (fun _ later => stage.At later) processDurableInvalidationLocked state := by
    refine here.change stage fences (fun later now => ⟨rfl, now.opened, now.closed, now.core,
      now.pending, now.fine⟩) fun later now there => ?_
    rw [if_neg (by simp [(quiet now).2])]
    exact there.done fun _ there => there
  have superseded {later : Watched} (now : stage.At later) :
      Judged (fun _ last => stage.At last) clearSupersededConditionalInvalidationLocked later := by
    refine now.read fences fun later now => ?_
    rw [if_neg fun both => both.1 (quiet now).1]
    exact now.done fun _ there => there
  exact durable.next fun _ later now => (superseded now).next fun _ later now =>
    leaveWriter_judged now fences fun _ _ _ _ pending => by simpa only [calm] using pending

/-- The handoff of a route that is already none retires nothing. -/
theorem handoff_vacant (vacant : stage.core.active = .none)
    (free : stage.pending = fun _ _ _ => True) (here : stage.At state) (fences : stage.Fences) :
    Judged (fun _ later => stage.At later) leaveWriterWithHandoff state := by
  have any (writer : Option Task) (token : ConditionalInvalidationToken)
      (durable : DurableState) : stage.pending writer token durable := free ▸ trivial
  have aside {words : Words} {later : Watched} (now : stage.At later)
      (core : words.core = later.1.core) (same : words.usbPublication = later.1.usbPublication) :
      stage.At (words, later.2) :=
    ⟨now.opened, now.closed, core.trans now.core, any _ _ _, same ▸ now.fine⟩
  have retired {target : Generation} {later : Watched} (now : stage.At later) :
      Judged (fun _ last => stage.At last) (retireTarget target) later := by
    refine now.read fences fun later now => ?_
    split
    · refine now.read fences fun later now => ?_
      rw [if_neg (by simp [now.core, vacant])]
      exact now.done fun _ there => there
    · exact now.done fun _ there => there
  have gone {target : Generation} {later : Watched} (now : stage.At later) :
      Judged (fun _ last => stage.At last) (targetGone target) later := by
    refine now.read fences fun later now => ?_
    split
    · exact now.done fun _ there => there
    · exact now.read fences fun later now => now.done fun _ there => there
  have durable {later : Watched} (now : stage.At later) :
      Judged (fun _ last => stage.At last) processDurableInvalidationLocked later := by
    refine now.change stage fences (fun later now => ⟨rfl, aside now rfl rfl⟩)
      fun later now there => ?_
    split
    · exact there.read fences fun later now => (retired now).next fun _ later now =>
        (gone now).next fun gone later now => by
          cases gone with
          | false => exact now.done fun _ there => there
          | true =>
              refine now.store fences fun later now => ?_
              split
              · exact ⟨rfl, aside now rfl rfl⟩
              · exact ⟨rfl, now⟩
    · exact there.done fun _ there => there
  have still {target : Generation} {later : Watched} (now : stage.At later) :
      Judged (fun _ last => stage.At last) (stillExactUsb target) later := by
    refine now.read fences fun later now => ?_
    split
    · exact now.done fun _ there => there
    refine now.read fences fun later now => ?_
    split
    · exact now.done fun _ there => there
    refine now.read fences fun later now => ?_
    split
    · exact now.done fun _ there => there
    · exact now.read fences fun later now => now.done fun _ there => there
  have superseded {later : Watched} (now : stage.At later) :
      Judged (fun _ last => stage.At last) clearSupersededConditionalInvalidationLocked later := by
    refine now.read fences fun later now => ?_
    split
    · refine now.read fences fun later now => (still now).next fun exactly later now => ?_
      cases exactly with
      | true => exact now.done fun _ there => there
      | false =>
          refine now.change stage fences (fun later now => ?_) fun later now there =>
            there.done fun _ there => there
          split
          · exact ⟨rfl, aside now rfl rfl⟩
          · exact ⟨rfl, now⟩
    · exact now.done fun _ there => there
  exact (durable here).next fun _ later now => (superseded now).next fun _ later now =>
    leaveWriter_judged now fences fun _ _ _ _ _ => any _ _ _

end Handoff

/-! ### Observation -/

namespace Stage

/-- The publication word has no flag. -/
def Clear (stage : Stage) : Prop :=
  ∀ word vetoes, stage.fine word vetoes → word.active = false ∧ word.veto = false

/-- The invalidation words are these. -/
def Knows (stage : Stage) (token : ConditionalInvalidationToken) (durable : DurableState) : Prop :=
  ∀ writer found kept, stage.pending writer found kept → found = token ∧ kept = durable

theorem knows_of_undisturbed {stage : Stage} (calm : stage.pending = fun _ => Undisturbed) :
    stage.Knows noConditionalInvalidationToken .none := by
  intro writer found kept pending
  simpa only [calm, Undisturbed] using pending

theorem finished_clear {core : Core} : (finished core).Clear := fun _ _ fine => fine.2

theorem counting_clear {cut : BitVec 30} {core : Core} {pending : Pending} :
    (counting cut core pending).Clear := by
  rintro word vetoes rfl
  exact ⟨rfl, rfl⟩

end Stage

section Observation

variable {stage : Stage} {state : Watched}

theorem pendingWithout_judged (token : ConditionalInvalidationToken) (durable : DurableState)
    (standing : stage.Knows token durable) (here : stage.At state) (fences : stage.Fences) :
    Judged (fun result later => stage.At later ∧ (result = false ↔ Undisturbed token durable))
      invalidationPendingWithoutUsbPublication state := by
  have known {later : Watched} (now : stage.At later) :
      later.1.conditionalToken = token ∧ later.1.durableState = durable :=
    standing _ _ _ now.pending
  refine here.read fences fun later now => ?_
  obtain ⟨found, -⟩ := known now
  split
  case isTrue taken =>
    exact now.done fun later now => ⟨now, by simp [Undisturbed, ← found, taken]⟩
  case isFalse free =>
    refine now.read fences fun later now => now.done fun later there => ⟨there, ?_⟩
    have none : token = noConditionalInvalidationToken := by simpa [found] using free
    simp [Undisturbed, none, (known now).2]

theorem pending_judged (token : ConditionalInvalidationToken) (durable : DurableState)
    (standing : stage.Knows token durable) (clear : stage.Clear) (here : stage.At state)
    (fences : stage.Fences) :
    Judged (fun result later => stage.At later ∧ (result = false ↔ Undisturbed token durable))
      invalidationPending state := by
  refine here.read fences fun later now => ?_
  obtain ⟨active, veto⟩ := clear _ _ now.fine
  rw [if_neg (by simp [active, veto])]
  exact pendingWithout_judged token durable standing now fences

theorem routeIs_judged {desired active : OutputRoute} {transition : Transition}
    (same : stage.core.desired = desired ∧ stage.core.active = active ∧
      stage.core.transition = transition) (here : stage.At state) (fences : stage.Fences) :
    Judged (fun result later => stage.At later ∧ result = true)
      (routeIs desired active transition) state := by
  refine here.read fences fun later now => ?_
  rw [if_neg (by simp [now.core, same])]
  refine now.read fences fun later now => ?_
  rw [if_neg (by simp [now.core, same])]
  refine now.read fences fun later now => now.done fun _ there => ⟨there, ?_⟩
  simp [now.core, same]

theorem undisturbed_judged {desired active : OutputRoute} {transition : Transition}
    (token : ConditionalInvalidationToken) (durable : DurableState)
    (standing : stage.Knows token durable) (clear : stage.Clear)
    (same : stage.core.desired = desired ∧ stage.core.active = active ∧
      stage.core.transition = transition) (here : stage.At state) (fences : stage.Fences) :
    Judged (fun result later => stage.At later ∧ (result = true ↔ Undisturbed token durable))
      (undisturbedRouteIs desired active transition) state := by
  refine (pending_judged token durable standing clear here fences).next fun pending later both => ?_
  obtain ⟨now, observed⟩ := both
  split
  case isTrue taken =>
    refine now.done fun later now => ⟨now, ?_⟩
    simpa [taken] using observed
  case isFalse free =>
    refine (routeIs_judged same now fences).mono fun result later there => ⟨there.1, ?_⟩
    simpa [there.2, free] using observed

theorem snapshot_judged (clear : stage.Clear) (standing : stage.pending = fun _ => Undisturbed)
    (settled : publicationBusy stage.core.sequence = false) (here : stage.At state)
    (fences : stage.Fences) :
    Judged (fun result later => stage.At later ∧ result =
      { desired := stage.core.desired, active := stage.core.active,
        generation := stage.core.generation, transition := stage.core.transition })
      snapshot state := by
  refine here.read fences fun later now => ?_
  rw [if_neg (by simp [now.core, settled]), now.core]
  refine now.read fences fun later now => ?_
  rw [now.core]
  refine now.read fences fun later now => ?_
  rw [now.core]
  refine now.read fences fun later now => ?_
  rw [now.core]
  refine now.read fences fun later now => ?_
  rw [now.core]
  refine (pending_judged _ _ (Stage.knows_of_undisturbed standing) clear now fences).next
    fun pending later both => ?_
  obtain ⟨now, pending⟩ := both
  obtain rfl := pending.mpr ⟨rfl, rfl⟩
  refine now.read fences fun later now => ?_
  rw [if_pos (by simp [now.core, settled])]
  exact now.done fun _ there => ⟨there, rfl⟩

end Observation

section Stores

variable {stage : Stage} {state : Watched}

theorem onCore_judged {change : Core → Core} (here : stage.At state)
    (fences : ∀ core, (stage.withCore core).Fences) :
    Judged (fun _ later => (stage.withCore (change stage.core)).At later) (onCore change)
      state := by
  have judged : Judged (fun _ later => (stage.withCore (change stage.core)).At later)
      (onCore change >>= Program.done) state :=
    here.onCore (fences _) fun _ now => now.done fun _ there => there
  exact judged

/-- The stores of a publication, the last of which makes it readable. -/
theorem storeRoute_judged {desired active : OutputRoute}
    (here : stage.At state) (fences : ∀ core, (stage.withCore core).Fences) :
    Judged (fun _ later => (stage.withCore { stage.core with
        desired, active, unsettled := false, transition := .stable,
        sequence := stage.core.sequence + 1 }).At later)
      (storeRoute desired active) state := by
  refine here.onCore (fences _) fun _ now => now.onCore (fences _) fun _ now =>
    now.onCore (fences _) fun _ now => ?_
  refine Judged.mono (fun _ later there => ?_) (onCore_judged now fences)
  exact ⟨there.opened, there.closed, there.core, there.pending, there.fine⟩

/-- A route that is retired exactly is none afterwards. -/
theorem retire_judged {expectedRoute : OutputRoute} {generation : Generation}
    (here : stage.At state) (fences : ∀ core, (stage.withCore core).Fences)
    (current : stage.core.active = expectedRoute ∧ stage.core.generation = generation)
    (held : expectedRoute ≠ .none) :
    Judged (fun _ later => ∃ core : Core, (core.desired = .none ∧ core.active = .none ∧
        core.transition = .stable) ∧ (stage.withCore core).At later)
      (commitNoneLocked expectedRoute generation true) state := by
  obtain ⟨active, published⟩ := current
  refine here.read (fences stage.core) fun later now => ?_
  rw [now.core]
  refine now.read (fences stage.core) fun later now => ?_
  rw [now.core, if_neg (by simpa [active] using held), if_neg (by simp [active, published])]
  have retired : Judged (fun _ later => ∃ core : Core, (core.desired = .none ∧
      core.active = .none ∧ core.transition = .stable) ∧ (stage.withCore core).At later)
      retireRoute later := by
    refine now.onCore (fences _) fun _ now => now.onCore (fences _) fun _ now =>
      now.onCore (fences _) fun _ now => now.onCore (fences _) fun _ now =>
        now.onCore (fences _) fun _ now => ?_
    exact (onCore_judged now fences).mono fun _ _ there => ⟨_, ⟨rfl, rfl, rfl⟩, there⟩
  refine retired.next fun _ later retired => ?_
  obtain ⟨core, none, there⟩ := retired
  exact there.done fun _ there => ⟨core, none, there⟩

end Stores

/-! ### The publication -/

section Publication

variable {state : Watched} {core : Core} {identity : UsbPublicationCut} {room : Nat}

/-- The commit sees that the publication word is no longer its own only after a veto. -/
theorem preempted_judged (here : (Stage.publishing identity core).At state) :
    Judged (fun result later => (result = true → (Stage.beaten identity 0 core).At later) ∧
        (result = false → (Stage.publishing identity core).At later))
      (publicationPreempted (some identity)) state := by
  refine (pendingWithout_judged _ _ (Stage.knows_of_undisturbed rfl) here
    Stage.publishing_fences).next fun pending later both => ?_
  obtain ⟨now, pending⟩ := both
  obtain rfl := pending.mpr ⟨rfl, rfl⟩
  refine now.read Stage.publishing_fences fun later now => ?_
  by_cases own : later.1.usbPublication = identity
  · exact now.done fun _ there => ⟨fun taken => by simp [own] at taken, fun _ => there⟩
  · obtain ⟨active, vetoed, kept⟩ := now.fine
    have veto : later.1.usbPublication.veto = true := by
      by_contra unvetoed
      exact own (kept (by simpa using unvetoed)).1
    have there : (Stage.beaten identity 0 core).At later :=
      ⟨now.opened, now.closed, now.core, now.pending, active, vetoed veto, Nat.zero_le _,
        .inr (vetoed veto)⟩
    exact there.done fun _ there => ⟨fun _ => there, fun missed => by simp [own] at missed⟩

end Publication

end HidBot.Route
