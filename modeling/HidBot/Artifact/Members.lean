import HidBot.Artifact.Extraction

/-!
# The members of a bundle

The directory itself and what lies below it, under the names that they have in an archive.
A directory comes before what it contains in any order by name.
-/

namespace HidBot.Artifact

open Python

/-! ### Texts of paths -/

theorem posix_append {first rest : List Text} (here : first ≠ []) (more : rest ≠ []) :
    posix (first ++ rest) = posix first ++ slash :: posix rest := by
  induction first with
  | nil => exact absurd rfl here
  | cons part first ih =>
      cases first with
      | nil =>
          obtain ⟨head, tail, rfl⟩ := List.exists_cons_of_ne_nil more
          simp [posix, List.intercalate_cons_cons]
      | cons second first =>
          have later := ih (by simp)
          simp only [posix, List.cons_append, List.intercalate_cons_cons] at later ⊢
          rw [later]
          simp

theorem posix_singleton (part : Text) : posix [part] = part := by simp [posix]

theorem posix_cons (part : Text) {rest : List Text} (more : rest ≠ []) :
    posix (part :: rest) = part ++ slash :: posix rest := by
  rw [← List.singleton_append, posix_append (by simp) more, posix_singleton]

theorem components_posix {path : List Text} (nonempty : path ≠ [])
    (components' : ∀ part ∈ path, slash ∉ part) : components (posix path) = path :=
  List.splitOn_intercalate slash components' nonempty

/-- What is below a directory comes after it. -/
theorem codes_posix_lt {first rest : List Text} (here : first ≠ []) (more : rest ≠ []) :
    Text.codes (posix first) < Text.codes (posix (first ++ rest)) := by
  rw [posix_append here more]
  exact Text.codes_lt_append _ (by simp)

/-- The parts of a valid path, joined, are the path. -/
theorem ValidPath.pureParts {path : Text} (valid : ValidPath path) :
    pureParts path = components path := by
  refine List.filter_eq_self.mpr fun part member => ?_
  have safe := valid.safe part member
  simp only [safeComponent, List.mem_cons, List.not_mem_nil, or_false, not_or,
    decide_eq_true_eq] at safe
  simpa [text] using ⟨safe.1, safe.2.1⟩

theorem components_append (first rest : Text) :
    components (first ++ slash :: rest) = components first ++ components rest :=
  List.splitOn_append_cons_self first rest

theorem hasDrive_append {name : Text} (nonempty : name ≠ []) (plain : ¬hasDrive name)
    (rest : Text) : ¬hasDrive (name ++ slash :: rest) := by
  have apart : slash ≠ .char ':' := by decide
  intro drive
  unfold hasDrive at plain drive
  split at drive
  case h_1 letter _ same =>
    cases name with
    | nil => exact nonempty rfl
    | cons first name => cases name with
      | nil => exact apart (List.cons.inj (List.cons.inj same).2).1
      | cons second name =>
          have heads := List.cons.inj same
          have colon := (List.cons.inj heads.2).1
          rw [heads.1, colon] at plain
          exact plain drive
  case h_2 => cases drive

/-- A valid path below a valid name. -/
theorem ValidPath.below {name rest : Text} (named : ValidPath name) (valid : ValidPath rest) :
    ValidPath (name ++ slash :: rest) where
  posix := by
    refine ⟨by simp, fun member => ?_, fun member => ?_⟩
    · rcases List.mem_append.mp member with inside | inside
      · exact named.posix.2.1 inside
      · exact valid.posix.2.1 ((List.mem_cons.mp inside).resolve_left (by decide))
    · rcases List.mem_append.mp member with inside | inside
      · exact named.posix.2.2 inside
      · exact valid.posix.2.2 ((List.mem_cons.mp inside).resolve_left (by decide))
  relative := by
    refine ⟨?_, hasDrive_append named.posix.1 named.relative.2 rest⟩
    rw [List.head?_append_of_ne_nil _ named.posix.1]
    exact named.relative.1
  safe := by
    rw [components_append]
    exact List.forall_mem_append.mpr ⟨named.safe, valid.safe⟩

/-! ### Members -/

/-- The path of an entry, from the directory of the archive. -/
def Entry.name (root : Text) (entry : Entry) : Text := root ++ slash :: posix entry.path

def Entry.member (root : Text) (entry : Entry) : Text × Option Content :=
  (entry.name root, entry.content)

namespace Bundle

variable (bundle : Bundle)

/-- The directory and everything below it. -/
def members : List (Text × Option Content) :=
  (bundle.name, none) :: bundle.entries.map (Entry.member bundle.name)

variable {bundle}

theorem components_name : components bundle.name = [bundle.name] :=
  List.splitOn_eq_singleton bundle.named.1

theorem components_path {entry : Entry} (member : entry ∈ bundle.entries) :
    components (posix entry.path) = entry.path :=
  components_posix (bundle.below entry member) (bundle.separate entry member)

theorem components_entry {entry : Entry} (member : entry ∈ bundle.entries) :
    components (entry.name bundle.name) = bundle.name :: entry.path := by
  rw [Entry.name, components_append, components_name, components_path member]
  rfl

theorem valid_entry {entry : Entry} (member : entry ∈ bundle.entries) :
    ValidPath (entry.name bundle.name) :=
  bundle.named.2.below (bundle.valid entry member)

/-- Every directory that leads to an entry is an entry. -/
theorem ancestor {parents : List Text} (here : parents ≠ []) :
    ∀ {rest : List Text} {entry : Entry}, entry ∈ bundle.entries → rest ≠ [] →
      entry.path = parents ++ rest → ⟨parents, none⟩ ∈ bundle.entries := by
  intro rest
  induction rest using List.reverseRecOn with
  | nil => exact fun _ more => absurd rfl more
  | append_singleton rest part ih =>
      intro entry member _ same
      rw [← List.append_assoc] at same
      have parent := bundle.closed entry member (parents ++ rest) part same (by simp [here])
      cases rest with
      | nil => simpa using parent
      | cons first rest => exact ih parent (by simp) rfl

theorem valid_member {member : Text × Option Content} (inside : member ∈ bundle.members) :
    ValidPath member.1 := by
  rcases List.mem_cons.mp inside with rfl | inside
  · exact bundle.named.2
  · obtain ⟨entry, listed, rfl⟩ := List.mem_map.mp inside
    exact valid_entry listed

theorem separate_member {member : Text × Option Content} (inside : member ∈ bundle.members) :
    ∀ part ∈ components member.1, slash ∉ part := by
  rcases List.mem_cons.mp inside with rfl | inside
  · rw [components_name]
    simpa using bundle.named.1
  · obtain ⟨entry, listed, rfl⟩ := List.mem_map.mp inside
    rw [Entry.member, components_entry listed]
    exact List.forall_mem_cons.mpr ⟨bundle.named.1, bundle.separate entry listed⟩

theorem head_member {member : Text × Option Content} (inside : member ∈ bundle.members) :
    (components member.1).headD [] = bundle.name := by
  rcases List.mem_cons.mp inside with rfl | inside
  · rw [components_name]
    rfl
  · obtain ⟨entry, listed, rfl⟩ := List.mem_map.mp inside
    rw [Entry.member, components_entry listed]
    rfl

/-- Every directory that leads to a member is a member. -/
theorem ancestor_member {member : Text × Option Content} (inside : member ∈ bundle.members)
    {parents rest : List Text} (here : parents ≠ []) (more : rest ≠ [])
    (same : components member.1 = parents ++ rest) : (posix parents, none) ∈ bundle.members := by
  rcases List.mem_cons.mp inside with rfl | inside
  · rw [components_name] at same
    have short := congrArg List.length same
    have := List.length_pos_iff.mpr here
    have := List.length_pos_iff.mpr more
    simp only [List.length_singleton, List.length_append] at short
    omega
  · obtain ⟨entry, listed, rfl⟩ := List.mem_map.mp inside
    rw [Entry.member, components_entry listed] at same
    obtain ⟨root, parents, rfl⟩ := List.exists_cons_of_ne_nil here
    obtain ⟨rfl, path⟩ := List.cons.inj same
    by_cases top : parents = []
    · rw [top, posix_singleton]
      exact List.mem_cons_self
    · refine List.mem_cons_of_mem _ (List.mem_map.mpr
        ⟨⟨parents, none⟩, ancestor top listed more path, ?_⟩)
      rw [posix_cons _ top]
      rfl

theorem entry_eq_of_name {first second : Entry} (here : first ∈ bundle.entries)
    (there : second ∈ bundle.entries) (same : first.name bundle.name = second.name bundle.name) :
    first = second := by
  have parts := congrArg Artifact.components same
  rw [components_entry here, components_entry there] at parts
  exact List.inj_on_of_nodup_map bundle.distinct here there (List.cons.inj parts).2

theorem names_nodup : (bundle.members.map Prod.fst).Nodup := by
  rw [members, List.map_cons, List.map_map]
  refine List.nodup_cons.mpr ⟨fun inside => ?_, ?_⟩
  · obtain ⟨entry, listed, same⟩ := List.mem_map.mp inside
    have parts := congrArg Artifact.components same
    rw [Function.comp_apply, Entry.member, components_entry listed, components_name] at parts
    exact bundle.below entry listed (List.cons.inj parts).2
  · exact (List.Nodup.of_map _ bundle.distinct).map_on fun first here second there same =>
      entry_eq_of_name here there same

/-- No two entries are sorted alike. -/
theorem keys_nodup : (bundle.entries.map (posix ·.path)).Nodup := by
  refine (List.Nodup.of_map _ bundle.distinct).map_on fun first here second there same => ?_
  exact entry_eq_of_name here there (by rw [Entry.name, Entry.name, same])

end Bundle

end HidBot.Artifact
