import HidBot.Artifact.Archive
import Mathlib.Data.List.Infix

/-!
# What an extraction writes

Whatever the members of an archive are, an extraction that succeeds has written only below
the extraction root, and each path at most once. Names that are accepted resolve to
themselves, and a directory is made only where there is nothing.
-/

namespace HidBot.Artifact

open Python

/-! ### Names -/

theorem components_ne_nil (path : Text) : components path ≠ [] := List.splitOn_ne_nil _ _

theorem posix_components (path : Text) : posix (components path) = path :=
  List.intercalate_splitOn slash

theorem components_injective : Function.Injective components := fun first second same => by
  rw [← posix_components first, same, posix_components]

/-- Safe parts lead on from the root. -/
theorem joinpath_safe (root : List Text) {parts : List Text}
    (safe : ∀ part ∈ parts, safeComponent part) : joinpath root parts = root ++ parts := by
  induction parts generalizing root with
  | nil => simp [joinpath]
  | cons part rest ih =>
      rw [List.forall_mem_cons] at safe
      have plain : resolve root part = root ++ [part] := by
        have here := safe.1
        simp only [safeComponent, List.mem_cons, List.not_mem_nil, or_false, not_or,
          decide_eq_true_eq] at here
        rw [resolve, if_neg (by simp [here]), if_neg here.2.2]
      rw [joinpath, List.foldl_cons, plain, ← joinpath, ih _ safe.2, List.append_assoc]
      rfl

theorem ValidPath.joinpath {path : Text} (valid : ValidPath path) (root : List Text) :
    joinpath root (components path) = root ++ components path :=
  joinpath_safe root valid.safe

theorem safeArchiveMemberName_ok {name accepted : Text}
    (ok : safeArchiveMemberName name = .ok accepted) : ValidPath accepted := by
  obtain ⟨valid, rfl⟩ := validateRelativePathText_ok.mp ok
  exact valid

/-! ### Writes -/

namespace Disk

variable {disk next : Disk} {path : List Text}

theorem at?_eq_none : disk.at? path = none ↔
    ¬path <+: disk.root ∧ path ∉ disk.written.map Prod.fst := by
  unfold at?
  split_ifs with above
  · simp [above]
  · simp only [above, not_false_eq_true, true_and, Option.map_eq_none_iff, List.find?_eq_none,
      decide_eq_true_eq, List.mem_map, not_exists, not_and]

theorem mem_of_at?_file {content : Content} (found : disk.at? path = some (.file content)) :
    (path, .file content) ∈ disk.written := by
  unfold at? at found
  split_ifs at found with above
  · cases found
  · obtain ⟨entry, located, same⟩ := Option.map_eq_some_iff.mp found
    have here : entry.1 = path := by simpa using List.find?_some located
    have member := List.mem_of_find?_eq_some located
    rwa [← here, ← same]

/-- Below the root, and each path at most once. -/
structure Confined (disk : Disk) : Prop where
  below : ∀ write ∈ disk.written, ∃ rest, rest ≠ [] ∧ write.1 = disk.root ++ rest
  once : (disk.written.map Prod.fst).Nodup

/-- Only directories are new, and there are no fewer files. -/
structure Extends (disk next : Disk) : Prop where
  root : next.root = disk.root
  files : ∀ path content, (path, .file content) ∈ next.written →
    (path, .file content) ∈ disk.written

theorem Extends.refl (disk : Disk) : disk.Extends disk := ⟨rfl, fun _ _ member => member⟩

theorem Extends.trans {last : Disk} (first : disk.Extends next) (second : next.Extends last) :
    disk.Extends last :=
  ⟨second.root.trans first.root, fun path content member =>
    first.files path content (second.files path content member)⟩

theorem Confined.write (confined : disk.Confined) (node : Node) (absent : disk.at? path = none)
    {rest : List Text} (below : path = disk.root ++ rest) : (disk.write path node).Confined where
  below := by
    refine List.forall_mem_cons.mpr ⟨⟨rest, ?_, below⟩, confined.below⟩
    rintro rfl
    exact (at?_eq_none.mp absent).1 (by simp [below])
  once := List.nodup_cons.mpr ⟨(at?_eq_none.mp absent).2, confined.once⟩

/-- A path that is no part of the root's own is below it. -/
theorem below_of_prefix {root path whole : List Text} (part : path <+: root ++ whole)
    (beyond : ¬path <+: root) : ∃ rest, path = root ++ rest := by
  rcases List.prefix_or_prefix_of_prefix part (List.prefix_append root whole) with up | down
  · exact absurd up beyond
  · exact down.imp fun _ same => same.symm

theorem Confined.makeDirectory (confined : disk.Confined) {whole : List Text}
    (part : path <+: disk.root ++ whole) (made : disk.makeDirectory path = .ok next) :
    next.Confined ∧ disk.Extends next := by
  unfold Disk.makeDirectory at made
  split at made
  case h_1 absent =>
    cases made
    obtain ⟨rest, below⟩ := below_of_prefix part (at?_eq_none.mp absent).1
    refine ⟨confined.write .directory absent below, rfl, fun file content member => ?_⟩
    rcases List.mem_cons.mp member with same | member
    · cases same
    · exact member
  case h_2 =>
    cases made
    exact ⟨confined, .refl _⟩
  case h_3 => cases made

theorem Confined.mkdir (confined : disk.Confined) {whole : List Text}
    (below : path <+: disk.root ++ whole) (made : disk.mkdir path = .ok next) :
    next.Confined ∧ disk.Extends next := by
  have general : ∀ (steps : List (List Text)) (disk : Disk), disk.Confined →
      (∀ step ∈ steps, step <+: disk.root ++ whole) →
      steps.foldlM Disk.makeDirectory disk = .ok next → next.Confined ∧ disk.Extends next := by
    intro steps
    induction steps with
    | nil =>
        intro disk confined _ ended
        cases ended
        exact ⟨confined, .refl _⟩
    | cons step steps ih =>
        intro disk confined parts ended
        rw [List.forall_mem_cons] at parts
        rw [List.foldlM_cons] at ended
        obtain ⟨middle, first, ended⟩ := bind_ok.mp ended
        obtain ⟨confined, extends'⟩ := confined.makeDirectory parts.1 first
        obtain ⟨confined, later⟩ := ih middle confined (extends'.root ▸ parts.2) ended
        exact ⟨confined, extends'.trans later⟩
  exact general path.inits disk confined
    (fun step member => ((List.mem_inits ..).mp member).trans below) made

end Disk

/-! ### Runs -/

/-- Between two members: every file has the name of a member. -/
structure Extraction.Sound (state : Extraction) : Prop where
  confined : state.disk.Confined
  named : ∀ path content, (path, .file content) ∈ state.disk.written →
    ∃ name ∈ state.names, path = state.disk.root ++ components name

theorem Extraction.Sound.writeMember {state : Extraction} {disk : Disk} {member : TarMember}
    {name : Text} (sound : state.Sound) (fresh : name ∉ state.names)
    (wrote : writeMember state.disk (state.disk.root ++ components name) member = .ok disk) :
    disk.Confined ∧ disk.root = state.disk.root ∧ ∀ path content,
      (path, .file content) ∈ disk.written →
        ∃ name' ∈ name :: state.names, path = state.disk.root ++ components name' := by
  have known {disk : Disk} (extends' : state.disk.Extends disk) (path : List Text)
      (content : Content) (file : (path, .file content) ∈ disk.written) :
      ∃ name' ∈ state.names, path = state.disk.root ++ components name' :=
    sound.named path content (extends'.files path content file)
  unfold HidBot.Artifact.writeMember at wrote
  split_ifs at wrote with directory
  · obtain ⟨confined, extends'⟩ := sound.confined.mkdir List.prefix_rfl wrote
    refine ⟨confined, extends'.root, fun path content file => ?_⟩
    exact (known extends' path content file).imp fun _ found =>
      ⟨List.mem_cons_of_mem _ found.1, found.2⟩
  · simp only [bind_ok] at wrote
    obtain ⟨content, -, middle, made, wrote⟩ := wrote
    obtain ⟨confined, extends'⟩ := sound.confined.mkdir (List.dropLast_prefix _) made
    unfold Disk.writeFile at wrote
    split at wrote
    case h_1 => cases wrote
    case h_2 undirected =>
      cases wrote
      have absent : middle.at? (state.disk.root ++ components name) = none := by
        cases found : middle.at? (state.disk.root ++ components name) with
        | none => rfl
        | some node => cases node with
          | directory => exact absurd found undirected
          | file content =>
              obtain ⟨name', member', same⟩ :=
                known extends' _ content (Disk.mem_of_at?_file found)
              exact absurd (components_injective (List.append_cancel_left same) ▸ member') fresh
      refine ⟨confined.write (.file content) absent (by rw [extends'.root]), extends'.root, ?_⟩
      intro path content' file
      rcases List.mem_cons.mp file with same | file
      · exact ⟨name, List.mem_cons_self, congrArg Prod.fst same⟩
      · exact (known extends' path content' file).imp fun _ found =>
          ⟨List.mem_cons_of_mem _ found.1, found.2⟩

theorem Extraction.Sound.extractMember {state next : Extraction} {member : TarMember}
    (sound : state.Sound) (extracted : extractMember state member = .ok next) :
    next.Sound ∧ next.disk.root = state.disk.root := by
  obtain ⟨name, accepted, extracted⟩ := bind_ok.mp extracted
  have valid := safeArchiveMemberName_ok accepted
  simp only [bind_ok, require_ok] at extracted
  obtain ⟨_, fresh, _, -, _, -, disk, wrote, same⟩ := extracted
  cases same
  rw [valid.joinpath] at wrote
  obtain ⟨confined, root, named⟩ := sound.writeMember fresh wrote
  exact ⟨⟨confined, root ▸ named⟩, root⟩

/-- An extraction that succeeds has written only below its root, and nothing twice. -/
theorem extraction_confined {members : List TarMember} {extractionRoot top : List Text}
    {disk : Disk} (extracted : extractArchiveTo members extractionRoot = .ok (top, disk)) :
    disk.root = extractionRoot ∧ disk.Confined := by
  simp only [extractArchiveTo, bind_ok] at extracted
  obtain ⟨_, -, state, ran, _, -, same⟩ := extracted
  cases same
  have initial : ({ disk := { root := extractionRoot } } : Extraction).Sound :=
    ⟨⟨by simp, by simp⟩, by simp⟩
  have sound := foldlM_induct (fun _ (state : Extraction) =>
    state.Sound ∧ state.disk.root = extractionRoot) ⟨initial, rfl⟩
    (fun before member state next holds extracted => by
      obtain ⟨sound, root⟩ := holds.1.extractMember extracted
      exact ⟨sound, root.trans holds.2⟩) ran
  exact ⟨sound.2, sound.1.confined⟩

end HidBot.Artifact
