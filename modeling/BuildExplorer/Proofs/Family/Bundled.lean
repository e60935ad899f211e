import BuildExplorer.Proofs.DeviceBundle.Sections

/-!
# Listings of a bundle

A text with start lines is a bundle, and its sections become listings.  One section is
that of the host: of the targets that are named for a host, the least one.  Without such
a target, the host is listed by the whole text.  All other sections are listings for
devices, so no section is lost and none is listed twice.
-/

namespace BuildExplorer

namespace DeviceBundle

/-! ## The host -/

/-- The beginning of a target tells that it is the host. -/
def NamesHost (target : String) : Prop :=
  "host-".toList <+: target.toList

/-- The target of the host in a bundle, if there is one, and the text that lists the
host. -/
inductive ListsHost (text : String) (sections : Sections) : Option String → String → Prop
  | ofSection {host body : String} (listed : (host, body) ∈ sections) (named : NamesHost host)
      (least : ∀ entry ∈ sections, NamesHost entry.1 → host ≤ entry.1) :
      ListsHost text sections (some host) body
  | whole (unnamed : ∀ entry ∈ sections, ¬NamesHost entry.1) :
      ListsHost text sections none text

theorem hostTarget_eq_none_iff {sections : Sections} :
    hostTarget sections = none ↔ ∀ entry ∈ sections, ¬NamesHost entry.1 := by
  simp [hostTarget, NamesHost]

/-- In a bundle that is in order, the first target that is named for the host is the
least. -/
theorem listsHost_of_hostTarget {sections : Sections} (inOrder : InOrder sections)
    {host : String} (isHost : hostTarget sections = some host) (text : String) :
    ∃ body, sections.lookup host = some body ∧ ListsHost text sections (some host) body := by
  obtain ⟨⟨target, body⟩, found, rfl⟩ := Option.map_eq_some_iff.mp isHost
  obtain ⟨named, earlier, later, isSplit, unnamed⟩ := List.find?_eq_some_iff_append.mp found
  have listed : (target, body) ∈ sections := by simp [isSplit]
  refine ⟨body, inOrder.mem_iff.mp listed, .ofSection listed ?_ ?_⟩
  · exact List.isPrefixOf_iff_prefix.mp named
  · intro entry member isNamed
    have notEarlier : entry ∉ earlier := by
      intro isEarlier
      have notNamed : (!"host-".toList.isPrefixOf entry.1.toList) = true :=
        unnamed entry isEarlier
      rw [List.isPrefixOf_iff_prefix.mpr isNamed] at notNamed
      exact Bool.false_ne_true notNamed
    rw [isSplit, List.mem_append, or_iff_right notEarlier, List.mem_cons] at member
    rw [isSplit, InOrder, List.pairwise_append, List.pairwise_cons] at inOrder
    rcases member with rfl | isLater
    · exact String.le_refl _
    · exact String.not_lt.mp (String.lt_asymm (inOrder.2.1.1 entry isLater))

/-- The text that is looked up for the host is the one that lists it. -/
theorem listsHost_hostTarget {sections : Sections} (inOrder : InOrder sections) (text : String) :
    ListsHost text sections (hostTarget sections)
      (((hostTarget sections).bind fun target => sections.lookup target).getD text) := by
  cases isHost : hostTarget sections with
  | none => exact .whole (hostTarget_eq_none_iff.mp isHost)
  | some host =>
      obtain ⟨body, found, lists⟩ := listsHost_of_hostTarget inOrder isHost text
      rw [Option.bind_some, found, Option.getD_some]
      exact lists

/-! ## The targets -/

theorem InOrder.nodup_targets {Body : Type} {bodies : PerTarget Body} (inOrder : InOrder bodies) :
    (bodies.map (·.1)).Nodup :=
  List.pairwise_map.mpr (inOrder.imp fun before => (String.ne_of_lt before))

/-- The target of the host and the others are all targets. -/
theorem perm_targets {text hostText : String} {sections : Sections} {host : Option String}
    (inOrder : InOrder sections) (lists : ListsHost text sections host hostText) :
    (host.toList ++ (sections.map (·.1)).filter (some · != host)).Perm
      (sections.map (·.1)) := by
  have nodup := inOrder.nodup_targets
  cases lists with
  | whole =>
      have all : (sections.map (·.1)).filter (some · != none) = sections.map (·.1) :=
        List.filter_eq_self.mpr fun _ _ => rfl
      rw [all]
      exact List.Perm.refl _
  | @ofSection target _ listed =>
      have isTarget : target ∈ sections.map (·.1) := List.mem_map.mpr ⟨_, listed, rfl⟩
      have others : (sections.map (·.1)).filter (some · != some target) =
          (sections.map (·.1)).erase target := by
        rw [nodup.erase_eq_filter]
        rfl
      rw [others]
      exact (List.perm_cons_erase isTarget).symm

end DeviceBundle

namespace Family

open DeviceBundle (startMarker split split_eq_none_iff split_inOrder ListsHost InOrder)

/-- The listings of a compiler for several devices part the bundle.  Nothing of a result
changes but its listing and its devices.  A text without start lines is added to the
listing as it is, and the devices stay.  Otherwise the text has sections; the listing is
extended by that of the host, and the devices are all targets but the host's, each with
the listing of its own section. -/
theorem clang_listings_part_bundle (text : String) (filters : Filters) (result : Result) :
    let added := Family.clang.addAssembly text filters result
    ((∀ line ∈ text.toList.splitOn '\n', ¬startMarker.toList <+: line) →
      added = { result with listing := result.listing ++ Listing.ofText text filters }) ∧
    ((∃ line ∈ text.toList.splitOn '\n', startMarker.toList <+: line) →
      ∃ sections host hostText devices, split text = some sections ∧
        ListsHost text sections host hostText ∧
        added = { result with
          listing := result.listing ++ Listing.ofText hostText filters
          devices := some devices } ∧
        InOrder devices ∧
        (∀ target listing, (target, listing) ∈ devices ↔
          some target ≠ host ∧
            ∃ body, (target, body) ∈ sections ∧ listing = Listing.ofText body filters) ∧
        (host.toList ++ devices.map (·.1)).Perm (sections.map (·.1)) ∧
        (sections.map (·.1)).Nodup) := by
  intro added
  constructor
  · intro unmarked
    have isNone := (split_eq_none_iff text).mpr unmarked
    simp only [added, addAssembly, isNone]
    rfl
  · rintro ⟨line, member, isStart⟩
    obtain ⟨sections, isSplit⟩ := Option.ne_none_iff_exists'.mp fun isNone =>
      (split_eq_none_iff text).mp isNone line member isStart
    have inOrder := split_inOrder isSplit
    have lists := DeviceBundle.listsHost_hostTarget inOrder text
    let others := sections.filter fun entry => some entry.1 != DeviceBundle.hostTarget sections
    refine ⟨sections, _, _, others.map fun entry => (entry.1, Listing.ofText entry.2 filters),
      isSplit, lists, ?added, ?devicesInOrder, ?devices, ?targets, inOrder.nodup_targets⟩
    case added =>
        simp only [added, addAssembly, isSplit]
        rfl
    case devicesInOrder => exact List.pairwise_map.mpr (inOrder.filter _)
    case devices =>
        intro target listing
        simp only [others, List.mem_map, List.mem_filter, bne_iff_ne, Prod.exists, Prod.mk.injEq]
        constructor
        · rintro ⟨_, body, ⟨listed, isDevice⟩, rfl, rfl⟩
          exact ⟨isDevice, body, listed, rfl⟩
        · rintro ⟨isDevice, body, listed, rfl⟩
          exact ⟨target, body, ⟨listed, isDevice⟩, rfl, rfl⟩
    case targets =>
        have parted := DeviceBundle.perm_targets inOrder lists
        rw [List.filter_map] at parted
        rwa [List.map_map]

end Family

end BuildExplorer
