import BannerGen.Proofs.Collecting
import Mathlib.Data.List.Nodup

/-!
# Emitting

What the end of a run makes of a session that reflects a list of occurrences: a fragment for every
type of an eligible occurrence, with the members of the accepted occurrences in the order of their
locations, and the diagnostics of the rejected occurrences and of the unknown fonts.
-/

namespace BannerGen

/-- Sorting by location loses and adds nothing. -/
theorem Span.sortBy_perm {α : Type} (location : α → Span) (l : List α) :
    (Span.sortBy location l).Perm l :=
  List.mergeSort_perm l _

/-- The requests accepted for a type in the order of their locations. -/
def sortedRequests (resolver : Resolver Id) (as : List Occurrence) (key : TypeKey) :
    List Request :=
  Span.sortBy Request.location ((acceptedFor resolver as key).map Occurrence.request)

theorem sortedRequests_perm (resolver : Resolver Id) (as : List Occurrence) (key : TypeKey) :
    (sortedRequests resolver as key).Perm
      ((acceptedFor resolver as key).map Occurrence.request) :=
  Span.sortBy_perm _ _

namespace Session

variable {resolver : Resolver Id} {as : List Occurrence} {s : Session}

/-- The entry of a type has the requests accepted for it. -/
theorem Reflects.requests_eq (h : Reflects resolver as s) {key : TypeKey} {e : Entry}
    (he : s.ledger.get? key = some e) :
    e.requests = (acceptedFor resolver as key).map Occurrence.request := by
  rw [h.entries, entryFor, Option.map_eq_some_iff] at he
  obtain ⟨first, _, rfl⟩ := he
  rfl

/-- The ledger lists the types of the eligible occurrences with the requests accepted for them. -/
theorem Reflects.map_requests (h : Reflects resolver as s) :
    s.ledger.entries.map (fun (key, e) => (key, e.requests)) =
      (eligibleKeys as).map fun key =>
        (key, (acceptedFor resolver as key).map Occurrence.request) := by
  rw [← h.keys, Ledger.keys, List.map_map]
  refine List.map_congr_left fun p hmem => ?_
  obtain ⟨key, e⟩ := p
  exact congrArg (Prod.mk key) (h.requests_eq (h.get?_of_mem hmem))

/-- There is a fragment for every type of an eligible occurrence, with the requests accepted for
it that can be rendered. -/
theorem Reflects.fragments (h : Reflects resolver as s) (settings : Settings)
    (render : Renderer) :
    (s.finish settings render).fragments.map (fun fr => (fr.key, fr.members)) =
      (eligibleKeys as).map fun key =>
        (key, renderedMembers render (sortedRequests resolver as key)) := by
  -- The kind of a type shows only in the source text, so types and requests are enough.
  have hentries := congrArg (List.map fun (p : TypeKey × List Request) =>
    (p.1, renderedMembers render (Span.sortBy Request.location p.2))) h.map_requests
  rw [List.map_map, List.map_map] at hentries
  rw [finish, List.map_map]
  exact hentries

/-- The diagnostics are those of the rejected occurrences and of the accepted ones whose font is
unknown, type by type. -/
theorem Reflects.finish_diagnostics (h : Reflects resolver as s) (settings : Settings)
    (render : Renderer) :
    (s.finish settings render).diagnostics = ordered settings.diagnostics.order
      (rejections resolver as ++ (eligibleKeys as).flatMap fun key =>
        unknownFonts render (sortedRequests resolver as key)) := by
  have hentries := congrArg (List.flatMap fun (p : TypeKey × List Request) =>
    unknownFonts render (Span.sortBy Request.location p.2)) h.map_requests
  rw [List.flatMap_map, List.flatMap_map] at hentries
  rw [finish, h.diagnostics]
  exact congrArg (fun l => ordered settings.diagnostics.order (rejections resolver as ++ l))
    hentries

/-- A rendered member comes from an occurrence accepted for the type. -/
theorem exists_mem_acceptedFor {render : Renderer} {key : TypeKey} {m : RenderedMember}
    (h : m ∈ renderedMembers render (sortedRequests resolver as key)) :
    ∃ a ∈ acceptedFor resolver as key, m.name = a.memberName ∧
      render a.marker.fontName.value a.marker.sourceText.value = some m.value := by
  obtain ⟨r, hr, hm⟩ := List.mem_filterMap.mp h
  rw [(sortedRequests_perm resolver as key).mem_iff] at hr
  obtain ⟨a, ha, rfl⟩ := List.mem_map.mp hr
  obtain ⟨value, hvalue, rfl⟩ := Option.map_eq_some_iff.mp hm
  exact ⟨a, ha, rfl, hvalue⟩

/-- The names of the rendered members are among those of the requests, in the same order. -/
theorem map_name_renderedMembers_sublist (render : Renderer) (rs : List Request) :
    ((renderedMembers render rs).map RenderedMember.name).Sublist (rs.map Request.memberName) := by
  induction rs with
  | nil => exact List.Sublist.refl _
  | cons r rs ih =>
    rw [renderedMembers, List.filterMap_cons]
    cases render r.fontName r.sourceText with
    | none => exact ih.cons _
    | some value => exact ih.cons_cons _

/-- No two members rendered for a type have the same canonical name. -/
theorem nodup_canonical_renderedMembers (resolver : Resolver Id) (as : List Occurrence)
    (render : Renderer) (key : TypeKey) :
    ((renderedMembers render (sortedRequests resolver as key)).map
      fun m => Identifier.canonical m.name).Nodup := by
  have hrequests : (((sortedRequests resolver as key).map Request.memberName).map
      Identifier.canonical).Nodup := by
    -- Sorting keeps the names apart, since it is a permutation.
    rw [List.map_map, ((sortedRequests_perm resolver as key).map _).nodup_iff, List.map_map]
    exact nodup_canonicalName_acceptedFor resolver as key
  have hsublist := (map_name_renderedMembers_sublist render
    (sortedRequests resolver as key)).map Identifier.canonical
  rw [List.map_map] at hsublist
  exact hsublist.nodup hrequests

end Session

end BannerGen
