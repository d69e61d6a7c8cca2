import BannerGen.Generator
import BannerGen.Proofs.Emitting
import BannerGen.Proofs.ForestIndex

/-!
# Generating from a forest

A forest resolves all of its declarations, so generation from it always succeeds, and its output is
that of the occurrences of the forest (`Forest.generate_eq`, `Forest.reflects_session`). From this
it follows that the members of a fragment have names that are valid, differ from each other, and
are not declared anywhere on the type.
-/

namespace BannerGen.Forest

open Session

variable {f : Forest}

/-- The occurrences of a forest, depth first. -/
def occurrences (f : Forest) : List Occurrence := BannerGen.occurrences f.resolver f.subtrees

/-- The session that has visited all declarations of a forest. -/
def session (f : Forest) : Session := visitEach f.resolver {} f.subtrees

theorem reflects_session (f : Forest) : Reflects f.resolver f.occurrences f.session :=
  reflects_visitEach f.resolver f.subtrees

/-- A forest resolves all of its declarations, so visits to all of them succeed. -/
theorem run_visitAll_subtrees (f : Forest) :
    (visitAll f.resolver {} f.subtrees).run = .ok f.session := by
  refine run_visitAll {} f.subtrees fun d hd => ?_
  obtain ⟨type, htype⟩ := Option.isSome_iff_exists.mp (isSome_resolve? hd)
  exact ⟨type, run_resolve htype⟩

/-- Generation from a forest always succeeds. -/
theorem generate_eq (settings : Settings) (render : Renderer) (f : Forest) :
    f.generate settings render = .ok (f.session.finish settings render) := by
  change (generateWith f.resolver settings render f).run = _
  rw [generateWith, Id.run_bind, run_visitAll_subtrees]
  rfl

/-- A fragment belongs to a type of an eligible occurrence, and its members are the rendered ones
of that type. -/
theorem members_of_mem_fragments {settings : Settings} {render : Renderer} {fragment : Fragment}
    (h : fragment ∈ (f.session.finish settings render).fragments) :
    fragment.members =
      renderedMembers render (sortedRequests f.resolver f.occurrences fragment.key) := by
  have hpair := List.mem_map_of_mem (f := fun fr : Fragment => (fr.key, fr.members)) h
  rw [f.reflects_session.fragments settings render, List.mem_map] at hpair
  obtain ⟨key, _, heq⟩ := hpair
  rw [Prod.mk.injEq] at heq
  rw [← heq.1, heq.2]

/-- The members of every fragment have valid names, no two of them have the same canonical name,
and none has the canonical name of a member or a nested type that any declaration of the type
declares. -/
theorem generate_member_names_unique (settings : Settings) (render : Renderer) (f : Forest) :
    ∃ output, f.generate settings render = .ok output ∧
      ∀ fragment ∈ output.fragments,
        (∀ m ∈ fragment.members, Identifier.isValid m.name = true) ∧
        (fragment.members.map fun m => Identifier.canonical m.name).Nodup ∧
        ∀ m ∈ fragment.members, ∀ name, f.Declares fragment.key name →
          Identifier.canonical name ≠ Identifier.canonical m.name := by
  refine ⟨_, generate_eq settings render f, fun fragment hfragment => ?_⟩
  rw [members_of_mem_fragments hfragment]
  refine ⟨fun m hm => ?_, nodup_canonical_renderedMembers _ _ render fragment.key,
    fun m hm name hname => ?_⟩
  · obtain ⟨a, ha, hm, _⟩ := exists_mem_acceptedFor hm
    obtain ⟨⟨_, _, hvalid⟩, _⟩ := isEligible_of_mem_accepted (mem_acceptedFor.mp ha).1
    rwa [hm]
  · -- The name was free in the entry of the type, and its seed is all that the type declares.
    obtain ⟨a, ha, hm, _⟩ := exists_mem_acceptedFor hm
    obtain ⟨haccepted, hkey⟩ := mem_acceptedFor.mp ha
    rw [hm]
    refine (isEligible_of_mem_accepted haccepted).2 name ?_
    rw [hkey, resolver_existingMembers]
    exact mem_existingMembers.mpr hname

end BannerGen.Forest
