import HidBot.Artifact.Members

/-!
# Archives of a bundle and their extraction

In both sorted lists of a creation the directories that lead to a member stand before it.
The parents of a file have therefore all been seen, and an extraction adds one path for
each member.
-/

namespace HidBot.Artifact

open Python

/-! ### Creation -/

theorem mem_parentParts {name parent : Text} {path : List Text} (nonempty : path ≠ [])
    (member : parent ∈ parentParts name (name :: path).reverse) : ∃ parents rest,
      path = parents ++ rest ∧ parents ≠ [] ∧ rest ≠ [] ∧ parent = posix (name :: parents) := by
  induction path using List.reverseRecOn with
  | nil => exact absurd rfl nonempty
  | append_singleton parents last ih =>
      have backwards : (name :: (parents ++ [last])).reverse =
        last :: (name :: parents).reverse := by simp
      rw [backwards, parentParts, List.reverse_reverse] at member
      split_ifs at member with root
      · cases member
      · have here : parents ≠ [] := by
          rintro rfl
          exact root (posix_singleton name)
        rcases List.mem_cons.mp member with rfl | above
        · exact ⟨parents, [last], rfl, here, by simp, rfl⟩
        · obtain ⟨grand, rest, same, top, -, parent'⟩ := ih here above
          exact ⟨grand, rest ++ [last], by rw [same, List.append_assoc], top, by simp, parent'⟩

theorem foldl_addParent {state : Listing} {parents : List Text}
    (seen : ∀ parent ∈ parents, parent ∈ state.seenDirs) :
    parents.foldl Listing.addParent state = state := by
  induction parents with
  | nil => rfl
  | cons parent parents ih =>
      rw [List.forall_mem_cons] at seen
      rw [List.foldl_cons, Listing.addParent, if_pos seen.1]
      exact ih seen.2

namespace Bundle

variable (bundle : Bundle)

theorem sorted_perm : (sortedBy Prod.fst bundle.members).Perm bundle.members :=
  sortedBy_perm bundle.members

/-- The listing after the entries. -/
def listing (entries : List Entry) : Listing where
  members := (bundle.name, none) :: entries.map (Entry.member bundle.name)
  seenDirs := (entries.filter (·.content.isNone)).map (Entry.name bundle.name)

/-- The members of the archive of the bundle. -/
def archive (sourceDateEpoch : Int) : List TarMember :=
  (sortedBy Prod.fst bundle.members).map (tarMember sourceDateEpoch)

variable {bundle}

theorem addEntry_listing {before : List Entry} {entry : Entry} (member : entry ∈ bundle.entries)
    (led : ∀ parents rest, entry.path = parents ++ rest → parents ≠ [] → rest ≠ [] →
      ⟨parents, none⟩ ∈ before) :
    addEntry bundle.name (bundle.listing before) entry =
      .ok (bundle.listing (before ++ [entry])) := by
  have accepted : validateRelativePathText (posix entry.path) = .ok (posix entry.path) :=
    validateRelativePathText_ok.mpr ⟨bundle.valid entry member, rfl⟩
  have parts : pureParts (entry.name bundle.name) = bundle.name :: entry.path := by
    rw [(valid_entry member).pureParts, components_entry member]
  cases kind : entry.content with
  | none => simp [addEntry, accepted, kind, listing, Entry.member, Entry.name]
  | some content =>
      have seen (parent : Text)
          (above : parent ∈ parentParts bundle.name (pureParts (entry.name bundle.name)).reverse) :
          parent ∈ (bundle.listing before).seenDirs := by
        rw [parts] at above
        obtain ⟨parents, rest, same, here, more, rfl⟩ :=
          mem_parentParts (bundle.below entry member) above
        refine List.mem_map.mpr ⟨⟨parents, none⟩, ?_, (posix_cons _ here).symm⟩
        exact List.mem_filter.mpr ⟨led parents rest same here more, rfl⟩
      have same := foldl_addParent fun parent above => seen parent (List.mem_reverse.mp above)
      simp only [Entry.name] at same
      simp only [addEntry, accepted, kind, bind, Except.bind, pure, Except.pure, same]
      simp [kind, listing, Entry.member, Entry.name]

theorem listed {enumerated : List Entry} (order : enumerated.Perm bundle.entries) :
    (sortedBy (posix ·.path) enumerated).foldlM (addEntry bundle.name)
      ⟨[(bundle.name, none)], []⟩ =
        .ok (bundle.listing (sortedBy (posix ·.path) enumerated)) := by
  refine foldlM_ok bundle.listing fun before entry after split => ?_
  have inside : entry ∈ enumerated :=
    (sortedBy_perm enumerated).mem_iff.mp (by rw [split]; simp)
  have member := order.mem_iff.mp inside
  refine addEntry_listing member fun parents rest same here more => ?_
  refine mem_before_of_lt split (order.mem_iff.mpr (ancestor here member more same)) ?_
  rw [same]
  exact codes_posix_lt here more

theorem created {enumerated : List Entry} (order : enumerated.Perm bundle.entries)
    {epoch : Int} (supported : 0 ≤ epoch ∧ epoch ≤ maxSourceDateEpoch) :
    createDeterministicTarGz bundle.name enumerated epoch = .ok (bundle.archive epoch) := by
  have accepted : validateRelativePathText bundle.name = .ok bundle.name :=
    validateRelativePathText_ok.mpr ⟨bundle.named.2, rfl⟩
  have dated : validateSourceDateEpoch epoch = .ok () := require_ok.mpr supported
  have same : (bundle.listing (sortedBy (posix ·.path) enumerated)).members.Perm
      bundle.members := (((sortedBy_perm enumerated).trans order).map _).cons _
  have sorted := sortedBy_congr same ((same.map _).nodup_iff.mpr names_nodup)
  simp only [createDeterministicTarGz, dated, accepted, bind, Except.bind]
  rw [listed order]
  exact congrArg (fun members => Except.ok (members.map (tarMember epoch))) sorted

/-- The archive lists the directory and its entries, each of them once. -/
theorem archive_perm (epoch : Int) :
    (bundle.archive epoch).Perm (bundle.members.map (tarMember epoch)) :=
  bundle.sorted_perm.map _

end Bundle

/-! ### Extraction -/

namespace Disk

variable {disk : Disk} {path : List Text}

theorem at?_of_mem (distinct : (disk.written.map Prod.fst).Nodup) (beyond : ¬path <+: disk.root)
    {node : Node} (written : (path, node) ∈ disk.written) : disk.at? path = some node := by
  rw [at?, if_neg beyond]
  obtain ⟨found, located⟩ := Option.isSome_iff_exists.mp (List.find?_isSome.mpr
    ⟨_, written, by simp⟩ : (disk.written.find? (·.1 = path)).isSome)
  have same : found.1 = path := by simpa using List.find?_some located
  have entry := List.inj_on_of_nodup_map distinct (List.mem_of_find?_eq_some located) written same
  rw [located, entry]
  rfl

theorem mkdir_made (made : ∀ step, step <+: path → disk.at? step = some .directory) :
    disk.mkdir path = .ok disk := by
  have general (steps : List (List Text)) (each : ∀ step ∈ steps, step <+: path) :
      steps.foldlM makeDirectory disk = .ok disk := by
    induction steps with
    | nil => rfl
    | cons step steps ih =>
        rw [List.forall_mem_cons] at each
        have first : disk.makeDirectory step = .ok disk := by
          rw [makeDirectory, made step each.1]
        rw [List.foldlM_cons, first]
        exact ih each.2
  exact general path.inits fun step member => (List.mem_inits ..).mp member

/-- Where there is nothing but what leads there, one directory is made. -/
theorem mkdir_new {above : List Text} {last : Text}
    (made : ∀ step, step <+: above → disk.at? step = some .directory)
    (absent : disk.at? (above ++ [last]) = none) :
    disk.mkdir (above ++ [last]) = .ok (disk.write (above ++ [last]) .directory) := by
  have steps : (above ++ [last]).inits = above.inits ++ [above ++ [last]] := by
    rw [List.inits_append]
    simp
  have before : above.inits.foldlM makeDirectory disk = .ok disk := mkdir_made made
  have added : disk.makeDirectory (above ++ [last]) =
      .ok (disk.write (above ++ [last]) .directory) := by
    rw [makeDirectory, absent]
  rw [mkdir, steps, List.foldlM_append, before]
  simp [bind, Except.bind, added, pure, Except.pure]

end Disk

def nodeOf : Option Content → Node
  | none => .directory
  | some content => .file content

/-- What an extraction below the root writes for a member. -/
def written (root : List Text) (member : Text × Option Content) : List Text × Node :=
  (root ++ components member.1, nodeOf member.2)

namespace Bundle

/-- After the members. -/
def extraction (bundle : Bundle) (root : List Text) (members : List (Text × Option Content)) :
    Extraction where
  disk := { root, written := (members.map (written root)).reverse }
  topLevel := if members = [] then none else some bundle.name
  names := (members.map Prod.fst).reverse

variable {bundle : Bundle}

theorem valid_accepted {member : Text × Option Content} (inside : member ∈ bundle.members) :
    safeArchiveMemberName member.1 = .ok member.1 := by
  have valid := valid_member inside
  have closed : member.1.getLast? ≠ some slash := by
    intro last
    obtain ⟨first, same⟩ := List.getLast?_eq_some_iff.mp last
    have safe := valid.safe (text "")
    rw [same, components_append] at safe
    exact absurd (safe (by simp [Artifact.components, text])) (by decide)
  rw [safeArchiveMemberName, if_neg closed]
  exact validateRelativePathText_ok.mpr ⟨valid, rfl⟩

section Step

variable {before after : List (Text × Option Content)} {member : Text × Option Content}
  (split : sortedBy Prod.fst bundle.members = before ++ member :: after)

include split

theorem inside_of_split : ∀ other ∈ before ++ [member], other ∈ bundle.members := by
  intro other inside
  refine bundle.sorted_perm.mem_iff.mp ?_
  rw [split]
  rcases List.mem_append.mp inside with earlier | here
  · exact List.mem_append_left _ earlier
  · rw [List.mem_singleton.mp here]
    simp

theorem names_of_split : ((before ++ [member]).map Prod.fst).Nodup := by
  have all := (bundle.sorted_perm.map Prod.fst).nodup_iff.mpr
    names_nodup
  rw [split] at all
  refine all.sublist (List.Sublist.map _ ?_)
  simp

theorem member_of_split : member ∈ bundle.members := inside_of_split split member (by simp)

theorem paths_of_split (root : List Text) :
    ((before ++ [member]).map fun other => root ++ components other.1).Nodup := by
  have paths := (List.nodup_map_iff (fun first second same => components_injective
    (List.append_cancel_left same) : Function.Injective (root ++ components ·))).mpr
      (names_of_split split)
  rwa [List.map_map] at paths

theorem written_nodup (root : List Text) :
    ((bundle.extraction root before).disk.written.map Prod.fst).Nodup := by
  have paths := paths_of_split split root
  rw [List.map_append] at paths
  simpa [extraction, List.map_reverse, Function.comp_def, written] using
    (List.nodup_append.mp paths).1

/-- What leads to the next member has been made. -/
theorem led_to {root step : List Text} (above : step <+: root ++ components member.1)
    (proper : step ≠ root ++ components member.1) :
    (bundle.extraction root before).disk.at? step = some .directory := by
  by_cases up : step <+: root
  · exact if_pos up
  obtain ⟨parents, rfl⟩ := Disk.below_of_prefix above up
  have here : parents ≠ [] := by
    rintro rfl
    exact up (by simp)
  obtain ⟨rest, same⟩ := (List.prefix_append_right_inj root).mp above
  have more : rest ≠ [] := by
    rintro rfl
    exact proper (by rw [← same, List.append_nil])
  have inside := member_of_split split
  have parts : components (posix parents) = parents :=
    components_posix here fun part listed =>
      separate_member inside part (same ▸ List.mem_append_left rest listed)
  have earlier : (posix parents, none) ∈ before := by
    refine mem_before_of_lt split (ancestor_member inside here more same.symm) ?_
    rw [← posix_components member.1, ← same]
    exact codes_posix_lt here more
  refine Disk.at?_of_mem (written_nodup split root) up ?_
  refine List.mem_reverse.mpr (List.mem_map.mpr ⟨_, earlier, ?_⟩)
  simp only [written, parts, nodeOf]

theorem nothing_at (root : List Text) :
    (bundle.extraction root before).disk.at? (root ++ components member.1) = none := by
  refine Disk.at?_eq_none.mpr ⟨fun up => ?_, fun member' => ?_⟩
  · have length : (root ++ components member.1).length ≤ root.length := up.length_le
    have := List.length_pos_iff.mpr (components_ne_nil member.1)
    rw [List.length_append] at length
    omega
  · have paths := paths_of_split split root
    rw [List.map_append, List.nodup_append] at paths
    refine paths.2.2 (root ++ components member.1) ?_ _
      (List.mem_map.mpr ⟨member, by simp, rfl⟩) rfl
    simpa [extraction, written] using member'

theorem writeMember_next (root : List Text) (epoch : Int) :
    writeMember (bundle.extraction root before).disk (root ++ components member.1)
      (tarMember epoch member) = .ok (bundle.extraction root (before ++ [member])).disk := by
  have next : (bundle.extraction root (before ++ [member])).disk =
      (bundle.extraction root before).disk.write (root ++ components member.1)
        (nodeOf member.2) := by
    simp [extraction, Disk.write, written]
  have last := List.dropLast_append_getLast (components_ne_nil member.1)
  have absent := nothing_at split root
  have led (step : List Text) (above : step <+: root ++ (components member.1).dropLast) :
      (bundle.extraction root before).disk.at? step = some .directory := by
    refine led_to split (above.trans ((List.prefix_append_right_inj root).mpr
      (List.dropLast_prefix _))) ?_
    rintro rfl
    have length := above.length_le
    have := List.length_pos_iff.mpr (components_ne_nil member.1)
    simp only [List.length_append, List.length_dropLast] at length
    omega
  rw [next]
  obtain ⟨name, content⟩ := member
  cases content with
  | none =>
      have directory : (tarMember epoch (name, none)).info.type = .directory := rfl
      rw [writeMember, if_pos directory]
      rw [← last, ← List.append_assoc] at absent ⊢
      exact Disk.mkdir_new led absent
  | some content =>
      have parent : (root ++ components name).dropLast = root ++ (components name).dropLast :=
        List.dropLast_append_of_ne_nil (components_ne_nil name)
      rw [writeMember, if_neg (by simp [tarMember, tarInfo]), parent]
      simp only [tarMember, demand, bind, Except.bind, Disk.mkdir_made led]
      rw [Disk.writeFile, absent]
      rfl

theorem extractMember_next (root : List Text) (epoch : Int) :
    extractMember (bundle.extraction root before) (tarMember epoch member) =
      .ok (bundle.extraction root (before ++ [member])) := by
  have inside := member_of_split split
  have fresh : member.1 ∉ (bundle.extraction root before).names := by
    have names := names_of_split split
    rw [List.map_append, List.nodup_append] at names
    intro listed
    exact names.2.2 member.1 (List.mem_reverse.mp listed) member.1 (by simp) rfl
  have top : ∀ topLevel ∈ (bundle.extraction root before).topLevel,
      (components member.1).headD [] = topLevel := by
    intro topLevel known
    rw [head_member inside]
    simp only [extraction] at known
    split_ifs at known
    · cases known
    · exact Option.some.inj known
  have ordinary : (tarMember epoch member).info.type ≠ .other := by
    cases directory : member.2.isNone <;> simp [tarMember, tarInfo, directory]
  have wrote := writeMember_next split root epoch
  rw [← (valid_member inside).joinpath] at wrote
  have same : bundle.extraction root (before ++ [member]) =
      { disk := (bundle.extraction root (before ++ [member])).disk
        topLevel := some ((components member.1).headD [])
        names := member.1 :: (bundle.extraction root before).names } := by
    rw [head_member inside]
    simp [extraction]
  rw [same]
  exact bind_ok.mpr ⟨member.1, valid_accepted inside, bind_ok.mpr ⟨(), require_ok.mpr fresh,
    bind_ok.mpr ⟨(), require_ok.mpr top, bind_ok.mpr ⟨(), require_ok.mpr ordinary,
      bind_ok.mpr ⟨_, wrote, rfl⟩⟩⟩⟩⟩

end Step

theorem extracted (bundle : Bundle) (root : List Text) (epoch : Int) :
    extractArchiveTo (bundle.archive epoch) root = .ok (root ++ [bundle.name],
      (bundle.extraction root (sortedBy Prod.fst bundle.members)).disk) := by
  have some' : sortedBy Prod.fst bundle.members ≠ [] := by
    intro none'
    have same := bundle.sorted_perm.length_eq
    rw [none', members] at same
    cases same
  have filled : bundle.archive epoch ≠ [] := by simpa [archive] using some'
  have ran : (bundle.archive epoch).foldlM extractMember { disk := { root } } =
      .ok (bundle.extraction root (sortedBy Prod.fst bundle.members)) := by
    rw [archive, List.foldlM_map]
    exact foldlM_ok (bundle.extraction root) fun before member after split =>
      extractMember_next split root epoch
  have top : (bundle.extraction root (sortedBy Prod.fst bundle.members)).topLevel =
      some bundle.name := if_neg some'
  exact bind_ok.mpr ⟨(), require_ok.mpr filled, bind_ok.mpr ⟨_, ran,
    bind_ok.mpr ⟨bundle.name, demand_ok.mpr top, rfl⟩⟩⟩

end Bundle

/-- What stands below the root after a faithful extraction of the bundle. -/
def Bundle.tree (bundle : Bundle) (root : List Text) : List (List Text × Node) :=
  (root ++ [bundle.name], .directory) ::
    bundle.entries.map fun entry => (root ++ bundle.name :: entry.path, nodeOf entry.content)

theorem Bundle.extraction_perm (bundle : Bundle) (root : List Text) :
    (bundle.extraction root (sortedBy Prod.fst bundle.members)).disk.written.Perm
      (bundle.tree root) := by
  refine (List.reverse_perm _).trans ((bundle.sorted_perm.map _).trans ?_)
  have same : bundle.members.map (written root) = bundle.tree root := by
    rw [members, tree, List.map_cons, List.map_map]
    refine congrArg₂ List.cons ?_ (List.map_congr_left fun entry listed => ?_)
    · rw [written, components_name]
      rfl
    · rw [Function.comp_apply, Entry.member, written, components_entry listed]
  rw [same]

/-- Every enumeration of a bundle makes the same archive, which lists each of its members
once and is extracted to the same tree. Every extraction stays below its root and writes
nothing twice. -/
theorem archives_round_trip {epoch : Int} (supported : 0 ≤ epoch ∧ epoch ≤ maxSourceDateEpoch) :
    (∀ bundle : Bundle, ∃ archive : List TarMember,
      (∀ enumerated, enumerated.Perm bundle.entries →
        createDeterministicTarGz bundle.name enumerated epoch = .ok archive) ∧
      (archive.map (·.info.name)).Nodup ∧
      archive.Perm (bundle.members.map (tarMember epoch)) ∧
      ∀ root, ∃ disk, extractArchiveTo archive root = .ok (root ++ [bundle.name], disk) ∧
        disk.written.Perm (bundle.tree root)) ∧
    ∀ archive root top disk, extractArchiveTo archive root = .ok (top, disk) →
      disk.root = root ∧ disk.Confined := by
  refine ⟨fun bundle => ⟨bundle.archive epoch, fun enumerated order => ?_, ?_, ?_, ?_⟩, ?_⟩
  · exact Bundle.created order supported
  · have names : (bundle.archive epoch).map (·.info.name) =
        (sortedBy Prod.fst bundle.members).map Prod.fst := by
      rw [Bundle.archive, List.map_map]
      rfl
    rw [names, (bundle.sorted_perm.map Prod.fst).nodup_iff]
    exact Bundle.names_nodup
  · exact Bundle.archive_perm epoch
  · exact fun root => ⟨_, bundle.extracted root epoch, bundle.extraction_perm root⟩
  · exact fun archive root top disk extracted => extraction_confined extracted

/-- A file in a directory, which is enumerated before its directory. -/
def sampleBundle : Bundle where
  name := text "release"
  entries := [⟨[text "docs", text "license"], some [0x4d]⟩, ⟨[text "docs"], none⟩]
  named := ⟨by decide, by constructor <;> decide⟩
  below := by decide
  separate := by decide
  valid := by
    rintro entry (_ | ⟨_, _ | ⟨_, _ | _⟩⟩) <;> constructor <;> decide
  distinct := by decide
  closed := by
    intro entry listed parent part same here
    simp only [List.mem_cons, List.not_mem_nil, or_false] at listed
    rcases listed with rfl | rfl
    · have last : parent = [text "docs"] := List.append_inj_left' same.symm rfl
      simp [last]
    · have last : parent = [] := List.append_inj_left' same.symm rfl
      exact absurd last here

theorem archives_round_trip_sample : (0 ≤ (0 : Int) ∧ 0 ≤ maxSourceDateEpoch) ∧
    ∃ archive, createDeterministicTarGz sampleBundle.name sampleBundle.entries 0 = .ok archive ∧
      ∃ disk, extractArchiveTo archive [] = .ok ([text "release"], disk) ∧
        disk.written.Perm [([text "release"], .directory),
          ([text "release", text "docs", text "license"], .file [0x4d]),
          ([text "release", text "docs"], .directory)] := by
  have supported : 0 ≤ (0 : Int) ∧ 0 ≤ maxSourceDateEpoch := by decide
  obtain ⟨archive, made, -, -, extracted⟩ := (archives_round_trip supported).1 sampleBundle
  exact ⟨supported, archive, made _ (.refl _), extracted []⟩

end HidBot.Artifact
