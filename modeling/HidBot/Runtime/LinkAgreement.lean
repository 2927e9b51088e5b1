import HidBot.Interleaving.Rely
import HidBot.Runtime.LinkFrame
import HidBot.Usb.Control

/-!
# The two views of the USB link

An attach request, the install that it schedules and the callbacks of the USB stack run
beside each other. The lifecycle and the status bits agree whenever no callback is in
progress, unless the request clears the bits of a host that has already been mounted, or
the completion of the install overwrites a mount that it has not seen.
-/

namespace HidBot.Runtime

open Interleaving

/-! ### Agreement -/

namespace Link

/-- The lifecycle has observed a host. -/
def Attached (link : Link) : Prop := link.observed = .mounted ∨ link.observed = .suspended

instance (link : Link) : Decidable link.Attached := inferInstanceAs (Decidable (_ ∨ _))

/-- The status bits say what the lifecycle has observed. -/
structure Agrees (link : Link) : Prop where
  mounted : link.Attached ↔ link.status.mounted = true
  suspended : link.observed = .suspended ↔
    link.status.mounted = true ∧ link.status.suspended = true

/-- What the other tasks may do to the link beside a callback. -/
structure Spared (before after : Link) : Prop where
  attached : before.Attached → after.observed = before.observed
  detached : ¬before.Attached → ¬after.Attached
  status : after.status = before.status ∨
    after.status = {} ∧ ¬(before.Attached ∧ before.status.mounted = true)

variable {before after : Link}

theorem Spared.refl (link : Link) : Spared link link := ⟨fun _ => rfl, id, .inl rfl⟩

theorem Spared.attached' (spared : Spared before after) (attached : before.Attached) :
    after.Attached := by
  rw [Attached, spared.attached attached]
  exact attached

theorem Spared.kept (spared : Spared before after) (attached : before.Attached)
    (mounted : before.status.mounted = true) : after = before := by
  have status := spared.status.resolve_right fun cleared => cleared.2 ⟨attached, mounted⟩
  have observed := spared.attached attached
  cases after
  cases before
  cases status
  cases observed
  rfl

theorem Spared.trans {first second third : Link} (one : Spared first second)
    (two : Spared second third) : Spared first third := by
  refine ⟨fun attached => ?_, fun detached => two.detached (one.detached detached), ?_⟩
  · exact (two.attached (one.attached' attached)).trans (one.attached attached)
  · by_cases known : first.Attached ∧ first.status.mounted = true
    · have same := one.kept known.1 known.2
      rw [same] at two
      exact two.status
    · rcases two.status with same | ⟨cleared, -⟩
      · rw [same]
        exact one.status
      · exact .inr ⟨cleared, known⟩

theorem Agrees.stable (agrees : before.Agrees) (spared : Spared before after) : after.Agrees := by
  by_cases attached : before.Attached
  · rw [spared.kept attached (agrees.mounted.mp attached)]
    exact agrees
  · have detached := spared.detached attached
    have unmounted : after.status.mounted ≠ true := by
      rcases spared.status with same | ⟨cleared, -⟩
      · rw [same]
        exact fun mounted => attached (agrees.mounted.mpr mounted)
      · rw [cleared]
        decide
    exact ⟨iff_of_false detached unmounted,
      iff_of_false (fun suspended => detached (.inr suspended)) fun both => unmounted both.1⟩

theorem agrees_detached (detached : ¬after.Attached) (status : after.status = {}) :
    after.Agrees := by
  refine ⟨iff_of_false detached (by simp [status]), iff_of_false ?_ (by simp [status])⟩
  exact fun suspended => detached (.inr suspended)

end Link

/-! ### Beside a callback -/

/-- What a callback relies on. -/
def LinkRely (before after : Words) : Prop := before.link.Spared after.link

/-- A callback promises nothing, and ends with this. -/
abbrev Callback {α : Type} (call : Program Words α) (post : α → Link → Prop) (words : Words) :
    Prop :=
  call.Safe LinkRely (fun _ _ => True) (fun result later => post result later.link) words

/-- The others leave it true. -/
def Stable (holds : Link → Prop) : Prop :=
  ∀ before after, holds before → before.Spared after → holds after

theorem stable_agrees : Stable Link.Agrees := fun _ _ agrees spared => agrees.stable spared

/-- A host whose mount is being published. -/
theorem stable_mounting : Stable (·.observed = .mounted) :=
  fun _ _ mounted spared => (spared.attached (.inl mounted)).trans mounted

theorem stable_detached : Stable (¬·.Attached) :=
  fun _ _ detached spared => spared.detached detached

/-- A host that is known to the status bits. -/
theorem stable_known (observed : UsbLifecycle.ObservedState)
    (attached : observed = .mounted ∨ observed = .suspended) :
    Stable fun link => link.observed = observed ∧ link.status.mounted = true := by
  rintro before after ⟨rfl, mounted⟩ spared
  rw [spared.kept attached mounted]
  exact ⟨rfl, mounted⟩

section Callback

variable {α β : Type} {holds : Link → Prop} {words : Words}

/-- Accesses beside the link keep what the others leave true. -/
theorem Callback.quiet {call : Program Words α} (each : call.Each SameLink)
    (stable : Stable holds) (now : holds words.link) :
    Callback call (fun _ => holds) words := by
  refine Program.Each.safe ?_ ?_ each now
  · exact fun before after holds spared => stable _ _ holds spared
  · exact fun before after holds same => ⟨trivial, same.symm ▸ holds⟩

theorem Callback.bind {call : Program Words α} {rest : α → Program Words β}
    {middle : α → Link → Prop} {post : β → Link → Prop} (first : Callback call middle words)
    (later : ∀ result words, middle result words.link → Callback (rest result) post words) :
    Callback (call >>= rest) post words :=
  Program.Safe.bind (fun words => Link.Spared.refl words.link)
    (first.mono fun result words holds => later result words holds)

/-- Accesses beside the link, and then the rest. -/
theorem Callback.aside {call : Program Words α} {rest : α → Program Words β}
    {post : β → Link → Prop} (each : call.Each SameLink) (stable : Stable holds)
    (now : holds words.link)
    (later : ∀ result words, holds words.link → Callback (rest result) post words) :
    Callback (call >>= rest) post words :=
  .bind (.quiet each stable now) later

theorem Callback.done {result : α} {post : α → Link → Prop} (stable : Stable (post result))
    (now : post result words.link) : Callback (pure result) post words :=
  fun _ spared => stable _ _ now spared

/-- One access that moves the link. -/
theorem Callback.write {update : Words → Words} {post : Link → Prop} (stable : Stable holds)
    (now : holds words.link) (moves : ∀ words, holds words.link → post (update words).link)
    (after : Stable post) : Callback (.write update) (fun _ => post) words :=
  fun _ spared => ⟨trivial, fun _ spared' =>
    after _ _ (moves _ (stable _ _ now spared)) spared'⟩

theorem Callback.admitted {safety : Bool} {call : Bool → Program Words α} {post : Link → Prop}
    (stable : Stable holds) (after : Stable post) (now : holds words.link)
    (inside : ∀ acquired words, holds words.link → Callback (call acquired) (fun _ => post) words) :
    Callback (admitted safety call) (fun _ => post) words := by
  refine .aside (.readModifyWrite fun _ => rfl) stable now fun acquired words now => ?_
  refine .bind (inside acquired words now) fun result words now => ?_
  refine .aside (.onlyIf _ (.write fun _ => rfl)) after now fun _ words now => ?_
  exact .done after now

end Callback

/-! ### Observations -/

section Observation

variable {α β : Type} {holds : Link → Prop} {words : Words}

theorem onUsb_bind (call : Program UsbLifecycle.Words α)
    (rest : α → Program UsbLifecycle.Words β) :
    onUsb (call >>= rest) = onUsb call >>= fun result => onUsb (rest result) :=
  Program.zoom_bind ..

theorem onUsb_ite (condition : Prop) [Decidable condition]
    (first second : Program UsbLifecycle.Words α) :
    onUsb (if condition then first else second) =
      if condition then onUsb first else onUsb second := by
  split <;> rfl

theorem Callback.ite {condition : Prop} [Decidable condition] {first second : Program Words α}
    {post : α → Link → Prop} (one : condition → Callback first post words)
    (two : ¬condition → Callback second post words) :
    Callback (if condition then first else second) post words := by
  split
  · exact one ‹_›
  · exact two ‹_›

/-- A load of the observed state finds it. -/
theorem observed_callback {post : UsbLifecycle.ObservedState → Link → Prop}
    (stable : Stable holds) (now : holds words.link) (after : ∀ observed, Stable (post observed))
    (found : ∀ link : Link, holds link → post link.observed link) :
    Callback (onUsb UsbLifecycle.observed) post words :=
  fun _ spared => ⟨trivial, fun _ spared' =>
    after _ _ _ (found _ (stable _ _ now spared)) spared'⟩

/-- The guard of an observation finds a state that it applies to. -/
theorem observationExpected_callback {applies : UsbLifecycle.ObservedState → Bool}
    {post : Link → Prop} (stable : Stable post) (agrees : words.link.Agrees)
    (found : ∀ link : Link, link.Agrees → applies link.observed = true → post link) :
    Callback (onUsb (UsbLifecycle.observationExpected applies))
      (fun expected link => link.Agrees ∧ (expected = true → post link)) words := by
  have both : Stable fun link => link.Agrees ∧ post link :=
    fun _ _ now spared => ⟨now.1.stable spared, stable _ _ now.2 spared⟩
  have seen (observed : UsbLifecycle.ObservedState) :
      Stable fun link => link.Agrees ∧ (applies observed = true → post link) :=
    fun _ _ now spared => ⟨now.1.stable spared, fun applied => stable _ _ (now.2 applied) spared⟩
  have refused {words : Words} (agrees : words.link.Agrees) :
      Callback (onUsb (pure false))
        (fun expected link => link.Agrees ∧ (expected = true → post link)) words :=
    fun _ spared => ⟨agrees.stable spared, fun expected => by cases expected⟩
  rw [UsbLifecycle.observationExpected, onUsb_bind]
  refine .aside (SameLink.loads (onUsb_loads (.read _))) stable_agrees agrees
    fun desired words agrees => ?_
  rw [onUsb_ite]
  refine .ite (fun _ => refused agrees) fun _ => ?_
  rw [onUsb_bind]
  refine .bind (observed_callback stable_agrees agrees seen fun link agrees =>
    ⟨agrees, found link agrees⟩) fun observed words now => ?_
  rw [onUsb_ite]
  refine .ite (fun applied => ?_) fun _ => refused now.1
  rw [onUsb_bind]
  refine .aside (SameLink.loads usbSnapshot_loads) both ⟨now.1, now.2 applied⟩
    fun snapshot words now => ?_
  exact fun _ spared => ⟨now.1.stable spared, fun _ => stable _ _ now.2 spared⟩

/-- An observation that is taken moves the link, and one that is refused leaves it. -/
theorem setObserved_callback {observed : UsbLifecycle.ObservedState} {post : Link → Prop}
    (stable : Stable holds) (after : Stable post) (now : holds words.link)
    (moves : ∀ link : Link, holds link → post { link with observed }) :
    Callback (onUsb (UsbLifecycle.setObserved observed >>= fun _ => pure true))
      (fun taken link => if taken = true then post link else link.Agrees) words :=
  fun _ spared => ⟨trivial, fun _ spared' =>
    after _ _ (moves _ (stable _ _ now spared)) spared'⟩

theorem refused_callback {post : Link → Prop} (agrees : words.link.Agrees) :
    Callback (onUsb (pure false))
      (fun taken link => if taken = true then post link else link.Agrees) words :=
  fun _ spared => agrees.stable spared

theorem observeMount_callback (agrees : words.link.Agrees) :
    Callback (onUsb UsbLifecycle.observeMount)
      (fun taken link => if taken = true then link.observed = .mounted else link.Agrees) words := by
  rw [UsbLifecycle.observeMount, onUsb_bind]
  refine .bind (observationExpected_callback stable_agrees agrees fun _ agrees _ => agrees)
    fun expected words now => ?_
  rw [onUsb_ite]
  refine .ite (fun applied => ?_) fun _ => refused_callback now.1
  exact setObserved_callback stable_agrees stable_mounting now.1 fun _ _ => rfl

theorem observeUnmount_callback (agrees : words.link.Agrees) :
    Callback (onUsb UsbLifecycle.observeUnmount)
      (fun taken link => if taken = true then ¬link.Attached else link.Agrees) words := by
  rw [UsbLifecycle.observeUnmount, onUsb_bind]
  refine .bind (observationExpected_callback stable_agrees agrees fun _ agrees _ => agrees)
    fun expected words now => ?_
  rw [onUsb_ite]
  refine .ite (fun applied => ?_) fun _ => refused_callback now.1
  have disconnects {words : Words} (agrees : words.link.Agrees) :
      Callback (onUsb (UsbLifecycle.setObserved .disconnected >>= fun _ => pure true))
        (fun taken link => if taken = true then ¬link.Attached else link.Agrees) words :=
    setObserved_callback stable_agrees stable_detached agrees fun _ _ => by simp [Link.Attached]
  rw [onUsb_bind]
  refine .aside (SameLink.loads (onUsb_loads (.read _))) stable_agrees now.1
    fun observed words agrees => ?_
  rw [onUsb_ite]
  refine .ite (fun _ => ?_) fun _ => disconnects agrees
  rw [onUsb_bind]
  exact Callback.aside (SameLink.onUsb (.write fun _ => rfl)) stable_agrees agrees
    fun _ words => disconnects

theorem observeSuspend_callback (agrees : words.link.Agrees) :
    Callback (onUsb UsbLifecycle.observeSuspend)
      (fun taken link => if taken = true then
        link.observed = .suspended ∧ link.status.mounted = true else link.Agrees) words := by
  rw [UsbLifecycle.observeSuspend, onUsb_bind]
  refine .bind (observationExpected_callback (stable_known .mounted (.inl rfl)) agrees
    fun link agrees applies => ?_) fun expected words now => ?_
  · have mounted : link.observed = .mounted := by simpa using applies
    exact ⟨mounted, agrees.mounted.mp (.inl mounted)⟩
  rw [onUsb_ite]
  refine .ite (fun applied => ?_) fun _ => refused_callback now.1
  exact setObserved_callback (stable_known .mounted (.inl rfl)) (stable_known .suspended (.inr rfl))
    (now.2 applied) fun _ known => ⟨rfl, known.2⟩

theorem observeResume_callback (agrees : words.link.Agrees) :
    Callback (onUsb UsbLifecycle.observeResume)
      (fun taken link => if taken = true then
        link.observed = .mounted ∧ link.status.mounted = true else link.Agrees) words := by
  rw [UsbLifecycle.observeResume, onUsb_bind]
  refine .bind (observationExpected_callback (stable_known .suspended (.inr rfl)) agrees
    fun link agrees applies => ?_) fun expected words now => ?_
  · have suspended : link.observed = .suspended := by simpa using applies
    exact ⟨suspended, agrees.mounted.mp (.inr suspended)⟩
  rw [onUsb_ite]
  refine .ite (fun applied => ?_) fun _ => refused_callback now.1
  exact setObserved_callback (stable_known .suspended (.inr rfl)) (stable_known .mounted (.inl rfl))
    (now.2 applied) fun _ known => ⟨rfl, known.2⟩

end Observation

/-! ### Callbacks -/

section Callbacks

variable {α : Type} {holds : Link → Prop} {words : Words}

theorem storeStatus_callback {status : StatusSnapshot} (stable : Stable holds)
    (now : holds words.link) (agrees : ∀ link : Link, holds link → { link with status }.Agrees) :
    Callback (storeStatus status) (fun _ => Link.Agrees) words :=
  .write stable now (fun words now => agrees words.link now) stable_agrees

/-- The bits of a mount are stored over those of any other state. -/
theorem publishMount_callback (mounted : words.link.observed = .mounted) :
    Callback (do
      clearReleaseRequest
      storeStatus { mounted := true }
      if (← usbSnapshot).hostReleaseUncertain = false then
        onUsb UsbLifecycle.markReleaseConfirmed) (fun _ => Link.Agrees) words := by
  have confirmed : (onUsb UsbLifecycle.markReleaseConfirmed).Each SameLink :=
    SameLink.onUsb (.bind (.write fun _ => rfl) fun _ => .write fun _ => rfl)
  refine .aside SameLink.clearReleaseRequest stable_mounting mounted fun _ words mounted => ?_
  refine .bind (storeStatus_callback stable_mounting mounted fun link mounted => ?_)
    fun _ words agrees => ?_
  · exact ⟨iff_of_true (.inl mounted) rfl, by simp [mounted]⟩
  refine .aside (SameLink.loads usbSnapshot_loads) stable_agrees agrees fun _ words agrees => ?_
  exact .ite (fun _ => .quiet confirmed stable_agrees agrees) fun _ => .done stable_agrees agrees

theorem onMount_callback (agrees : words.link.Agrees) :
    Callback onMount (fun _ => Link.Agrees) words := by
  refine .admitted stable_agrees stable_agrees agrees fun acquired words agrees => ?_
  refine .bind (observeMount_callback agrees) fun taken words now => ?_
  refine .ite (fun mounts => ?_) fun refused => ?_
  · rw [if_pos mounts] at now
    have owed : (Program.anyOf [owesSafety .keyboard, safetyRequired .keyboard, owesSafety .mouse,
        safetyRequired .mouse]).Loads :=
      .anyOf ⟨SameLink.owesSafety_loads, .read _, SameLink.owesSafety_loads, .read _⟩
    refine .aside (SameLink.loads bleRouteAuthoritySnapshot_loads) stable_mounting now
      fun bleRoute words now => ?_
    refine .aside (SameLink.loads routeSnapshot_loads) stable_mounting now
      fun activeRoute words now => ?_
    refine .aside SameLink.cancelWork stable_mounting now fun _ words now => ?_
    refine .aside SameLink.advanceAuthorityEpoch stable_mounting now fun _ words now => ?_
    refine .aside (.onlyIf _ SameLink.advanceReleaseEpoch) stable_mounting now
      fun _ words now => ?_
    refine .aside (SameLink.loads owed) stable_mounting now fun _ words now => ?_
    refine .aside (SameLink.loads hasUnresolvedPriorGeneration_loads) stable_mounting now
      fun _ words now => ?_
    refine .ite (fun _ => ?_) fun _ => .ite (fun _ => ?_) fun _ => ?_
    · refine .aside (SameLink.bothInterfaces fun _ => SameLink.onInterface _) stable_mounting now
        fun _ words now => ?_
      exact .aside SameLink.requestReleaseAll stable_mounting now
        fun _ words now => publishMount_callback now
    · exact .aside (SameLink.bothInterfaces fun _ => SameLink.preserveOverMount) stable_mounting now
        fun _ words now => publishMount_callback now
    · exact .aside (SameLink.bothInterfaces fun _ => SameLink.onInterface _) stable_mounting now
        fun _ words now => publishMount_callback now
  · rw [if_neg refused] at now
    exact .done stable_agrees now

/-- A lifecycle that is being detached is not attached. -/
theorem usbSnapshot_callback (agrees : words.link.Agrees) :
    Callback usbSnapshot (fun snapshot link => link.Agrees ∧
      (snapshot.observed = .detaching → ¬link.Attached)) words := by
  have stable (observed : UsbLifecycle.ObservedState) : Stable fun link => link.Agrees ∧
      (observed = .detaching → ¬link.Attached) :=
    fun _ _ now spared => ⟨now.1.stable spared, fun same => spared.detached (now.2 same)⟩
  have loaded : Callback (onUsb (.read (·.state))) (fun state link => link.Agrees ∧
      (state.observed = .detaching → ¬link.Attached)) words := by
    refine fun _ spared => ⟨trivial, fun _ spared' => ?_⟩
    refine stable _ _ _ ⟨agrees.stable spared, fun detaching attached => ?_⟩ spared'
    exact attached.elim (fun same => nomatch detaching.symm.trans same)
      fun same => nomatch detaching.symm.trans same
  have again {α : Type} (view : UsbLifecycle.Words → α) : (onUsb (.read view)).Each SameLink :=
    SameLink.loads (onUsb_loads (.read view))
  simp only [usbSnapshot, UsbLifecycle.snapshot, onUsb_bind]
  refine .bind loaded fun state words now => ?_
  refine .aside (again _) (stable _) now fun _ words now => ?_
  refine .aside (again _) (stable _) now fun _ words now => ?_
  refine .aside (again _) (stable _) now fun _ words now => ?_
  refine .aside (again _) (stable _) now fun _ words now => ?_
  refine .aside (again _) (stable _) now fun _ words now => ?_
  exact fun _ spared => stable state.observed _ _ now spared

theorem onUnmount_callback (task : Route.Task) (agrees : words.link.Agrees) :
    Callback (onUnmount task) (fun _ => Link.Agrees) words := by
  have cleared {words : Words} (detached : ¬words.link.Attached) :
      Callback (storeStatus {}) (fun _ => Link.Agrees) words :=
    storeStatus_callback stable_detached detached fun _ detached =>
      Link.agrees_detached detached rfl
  refine .admitted stable_agrees stable_agrees agrees fun acquired words agrees => ?_
  refine .aside (SameLink.loads attachGeneration_loads) stable_agrees agrees
    fun retired words agrees => ?_
  refine .bind (observeUnmount_callback agrees) fun taken words now => ?_
  refine .ite (fun unmounts => ?_) fun refused => ?_
  · rw [if_pos unmounts] at now
    have uncertain : (onUsb (UsbLifecycle.markReleaseUncertainForGeneration retired)).Each
        SameLink := SameLink.onUsb (.bind (.write fun _ => rfl) fun _ => .write fun _ => rfl)
    refine .aside SameLink.publishUsbLifecycleVeto stable_detached now fun _ words now => ?_
    refine .aside (SameLink.invalidateUsbRoute task) stable_detached now fun _ words now => ?_
    refine .aside SameLink.cancelWork stable_detached now fun _ words now => ?_
    refine .aside SameLink.advanceAuthorityEpoch stable_detached now fun _ words now => ?_
    refine .aside SameLink.advanceReleaseEpochUnlessReleasing stable_detached now
      fun _ words now => ?_
    refine .bind (cleared now) fun _ words now => ?_
    refine .aside SameLink.retireInterface stable_agrees now fun _ words now => ?_
    refine .aside SameLink.retireInterface stable_agrees now fun _ words now => ?_
    refine .aside (.onlyIf _ uncertain) stable_agrees now fun _ words now => ?_
    exact .quiet SameLink.clearReleaseRequest stable_agrees now
  · rw [if_neg refused] at now
    refine .bind (usbSnapshot_callback now) fun snapshot words now => ?_
    exact .ite (fun detaching => cleared (now.2 detaching)) fun _ => .done stable_agrees now.1

theorem onSuspend_callback (task : Route.Task) (agrees : words.link.Agrees) :
    Callback (onSuspend task) (fun _ => Link.Agrees) words := by
  refine .admitted stable_agrees stable_agrees agrees fun acquired words agrees => ?_
  refine .bind (observeSuspend_callback agrees) fun taken words now => ?_
  refine .ite (fun suspends => ?_) fun refused => ?_
  · rw [if_pos suspends] at now
    have known := stable_known .suspended (.inr rfl)
    refine .aside SameLink.publishUsbLifecycleVeto known now fun _ words now => ?_
    refine .aside (SameLink.invalidateUsbRoute task) known now fun _ words now => ?_
    refine .aside SameLink.cancelWork known now fun _ words now => ?_
    refine .aside SameLink.advanceAuthorityEpoch known now fun _ words now => ?_
    refine .aside SameLink.advanceReleaseEpochUnlessReleasing known now fun _ words now => ?_
    refine .aside (SameLink.bothInterfaces fun _ => SameLink.onInterface _) known now
      fun _ words now => ?_
    refine .write known now (fun words now => ?_) stable_agrees
    exact ⟨iff_of_true (.inr now.1) now.2, iff_of_true now.1 ⟨now.2, rfl⟩⟩
  · rw [if_neg refused] at now
    exact .done stable_agrees now

theorem onResume_callback (agrees : words.link.Agrees) :
    Callback onResume (fun _ => Link.Agrees) words := by
  refine .admitted stable_agrees stable_agrees agrees fun acquired words agrees => ?_
  refine .bind (observeResume_callback agrees) fun taken words now => ?_
  refine .ite (fun resumes => ?_) fun refused => ?_
  · rw [if_pos resumes] at now
    have known := stable_known .mounted (.inl rfl)
    refine .aside SameLink.cancelWork known now fun _ words now => ?_
    refine .aside SameLink.advanceAuthorityEpoch known now fun _ words now => ?_
    refine .write known now (fun words now => ?_) stable_agrees
    refine ⟨iff_of_true (.inl now.1) now.2, iff_of_false ?_ fun both => nomatch both.2⟩
    exact fun suspended => nomatch now.1.symm.trans suspended
  · rw [if_neg refused] at now
    exact .done stable_agrees now

end Callbacks

/-! ### The request and the install -/

/-- What an access of an attach request does to the link. -/
structure Link.Requested (before after : Link) : Prop where
  attached : before.Attached → after.observed = before.observed
  detached : ¬before.Attached → ¬after.Attached
  status : after.status = before.status ∨ after.status = {}

/-- What an access of an install does to the link. -/
structure Link.Installed (before after : Link) : Prop where
  detached : ¬before.Attached → ¬after.Attached
  status : after.status = before.status

theorem Link.Requested.of_same {before after : Words} (same : SameLink before after) :
    before.link.Requested after.link := by
  rw [same]
  exact ⟨fun _ => rfl, id, .inl rfl⟩

theorem Link.Installed.of_same {before after : Words} (same : SameLink before after) :
    before.link.Installed after.link := by
  rw [same]
  exact ⟨id, rfl⟩

/-- The exchange takes a link that has observed no driver. -/
theorem attachExchange_requested (state : UsbLifecycle.StateByte) (status : StatusSnapshot) :
    Link.Requested ⟨state.observed, status⟩
      ⟨(UsbLifecycle.attachExchange state).2.observed, status⟩ := by
  have same : Link.Requested ⟨state.observed, status⟩ ⟨state.observed, status⟩ :=
    ⟨fun _ => rfl, id, .inl rfl⟩
  simp only [UsbLifecycle.attachExchange]
  split
  · exact same
  split
  · exact same
  split
  · exact same
  · rename_i exposed hidden
    have absent : state.observed = .driverNotInstalled := by
      by_contra installed
      exact hidden ⟨fun desired => exposed ⟨desired, installed⟩, installed⟩
    refine ⟨fun attached => ?_, fun _ => by simp [Link.Attached], .inl rfl⟩
    simp [Link.Attached, absent] at attached

theorem requestAttach_each (taken : Bool) :
    (UsbLifecycle.requestAttach (·.usbLifecycle) setUsbLifecycle (scheduling taken)).Each
      fun before after => before.link.Requested after.link := by
  have beside {α : Type} {call : Program UsbLifecycle.Words α}
      (each : call.Each fun before after => after.state.observed = before.state.observed) :
      (call.zoom (·.usbLifecycle) setUsbLifecycle).Each
        fun before after : Words => before.link.Requested after.link :=
    .zoom (fun state _ same => .of_same (by
      rw [SameLink, Words.link, setUsbLifecycle, same]
      rfl)) each
  have snapshot : UsbLifecycle.snapshot.Each
      fun before after => after.state.observed = before.state.observed := by
    refine Program.Loads.each ?_ usbLifecycleSnapshot_loads
    exact fun _ => rfl
  have recorded : (UsbLifecycle.recordError .install (-1)).Each
      fun before after => after.state.observed = before.state.observed :=
    .bind (.write fun _ => rfl) fun _ => .bind (.write fun _ => rfl) fun _ => .write fun _ => rfl
  have cleared : UsbLifecycle.clearLastError.Each
      fun before after => after.state.observed = before.state.observed :=
    .bind (.write fun _ => rfl) fun _ => .bind (.write fun _ => rfl) fun _ => .write fun _ => rfl
  have exchanged : (UsbLifecycle.exchangeState UsbLifecycle.attachExchange).Each
      fun before after => ∀ status, Link.Requested ⟨before.state.observed, status⟩
        ⟨after.state.observed, status⟩ :=
    .readModifyWrite fun words => attachExchange_requested words.state
  refine .bind (.zoom (fun state _ requested => requested state.statusBits) exchanged)
    fun exchange => ?_
  cases exchange with
  | rejected => trivial
  | noOp => exact .bind (beside snapshot) fun _ => trivial
  | accepted =>
      refine .bind (beside cleared) fun _ => .bind (beside (.write fun _ => rfl)) fun _ => ?_
      refine .bind (beside (.write fun _ => rfl)) fun _ => .bind (beside snapshot) fun _ => ?_
      refine .bind trivial fun _ => .ite trivial ?_
      exact .bind (beside recorded) fun _ => .bind (beside (.write fun _ => rfl)) fun _ => trivial

theorem requestUsbAttach_each (taken : Bool) :
    (requestUsbAttach taken).Each fun before after => before.link.Requested after.link := by
  have beside {call : Program Words Unit} (each : call.Each SameLink) :
      call.Each fun before after => before.link.Requested after.link :=
    .mono (fun _ _ same => .of_same same) each
  refine .bind (status_loads.each fun _ => .of_same rfl) fun runtime => ?_
  refine .bind (requestAttach_each taken) fun transition => .ite ?_ trivial
  refine .bind (beside SameLink.cancelWork) fun _ => ?_
  refine .bind (beside SameLink.advanceAuthorityEpoch) fun _ => ?_
  refine .bind (beside SameLink.advanceReleaseEpochUnlessReleasing) fun _ => ?_
  exact .bind (.write fun _ => ⟨fun _ => rfl, id, .inr rfl⟩) fun _ => trivial

theorem completeInstall_each (result : UsbControl.BackendResult) :
    (onUsb (UsbControl.completeInstall result)).Each fun before after =>
      before.link.Installed after.link := by
  let step (before after : UsbLifecycle.Words) : Prop :=
    ∀ status, Link.Installed ⟨before.state.observed, status⟩ ⟨after.state.observed, status⟩
  have same {before after : UsbLifecycle.Words}
      (same : after.state.observed = before.state.observed) : step before after := by
    intro status
    rw [same]
    exact ⟨id, rfl⟩
  have recorded (errorCode : Int32) : (UsbLifecycle.recordError .install errorCode).Each step :=
    .bind (.write fun _ => same rfl) fun _ => .bind (.write fun _ => same rfl) fun _ =>
      .write fun _ => same rfl
  have required (required : Bool) : (UsbLifecycle.setRecoveryRequired required).Each step :=
    .write fun _ => same rfl
  have detached {observed : UsbLifecycle.ObservedState}
      (absent : observed ≠ .mounted ∧ observed ≠ .suspended) :
      (UsbLifecycle.setObserved observed).Each step :=
    .write fun _ _ => ⟨fun _ attached => attached.elim absent.1 absent.2, rfl⟩
  have guarded {call : Program UsbLifecycle.Words Unit} (each : call.Each step) :
      (UsbLifecycle.installExpected >>= fun expected =>
        if expected then call else pure ()).Each step := by
    have expected : UsbLifecycle.installExpected.Each step := by
      refine .bind (.read (fun _ => same rfl) _) fun _ => .ite ?_ trivial
      exact .bind (.read (fun _ => same rfl) _) fun _ => trivial
    exact .bind expected fun _ => .ite each trivial
  have ambiguous : (UsbLifecycle.completeInstallAmbiguousFailure result.errorCode).Each step :=
    guarded (.bind (recorded _) fun _ => required true)
  have each : (UsbControl.completeInstall result).Each step := by
    unfold UsbControl.completeInstall
    split
    · exact guarded (.bind (required false) fun _ => detached (by decide))
    · exact guarded (.bind (recorded _) fun _ =>
        .bind (required false) fun _ => detached (by decide))
    · exact ambiguous
    · exact ambiguous
  exact .zoom (fun state _ moves => moves state.statusBits) each

end HidBot.Runtime
