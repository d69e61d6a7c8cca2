import BannerGen.Proofs.Generation

/-!
# Runs that fail

Only a declaration with a marker that the host cannot resolve stops a run. `Declaration.FailsWith`
says so without a session, and gives the error: the identity and the name of the declaration, and
the reason of the host. `Declaration.failure?` computes that error.

* `Session.run_visit_eq_some_iff` — a visit that fails changes nothing but the count of visits.
* `Session.run_visitAll_eq_error_iff` — visits end with the error of the first declaration that
  fails.

A forest resolves all of its own declarations, so generation that asks the forest itself never
fails.
-/

namespace BannerGen

/-- A site has markers exactly if one of its attributes is recognized. -/
theorem Site.markers_ne_nil_iff {site : Site} :
    site.markers ≠ [] ↔ ∃ attr ∈ site.attributes, ∃ m, attr.recognize = .recognized m := by
  simp only [← Attribute.marker?_eq_some_iff, ← Option.isSome_iff_exists]
  rw [markers, ne_eq, List.filterMap_eq_nil_iff]
  simp [Option.isSome_iff_ne_none]

namespace Declaration

variable {resolver : Resolver Id} {d : Declaration} {error : Unresolved}

/-- The declaration has a marker, and the host cannot resolve it for the reason that the error
gives. -/
def FailsWith (resolver : Resolver Id) (d : Declaration) (error : Unresolved) : Prop :=
  (∃ attr ∈ d.site.attributes, ∃ m, attr.recognize = .recognized m) ∧
    ∃ failure, (resolver.resolve d).run = .error failure ∧
      error = { id := d.site.id, name := d.site.name, failure }

/-- The error of a declaration that has a marker and cannot be resolved. -/
def failure? (resolver : Resolver Id) (d : Declaration) : Option Unresolved :=
  if d.site.markers = [] then none
  else match (resolver.resolve d).run with
    | .ok _ => none
    | .error failure => some { id := d.site.id, name := d.site.name, failure }

theorem failure?_eq_some_iff :
    d.failure? resolver = some error ↔ d.FailsWith resolver error := by
  rw [FailsWith, ← Site.markers_ne_nil_iff, failure?]
  by_cases hempty : d.site.markers = []
  · simp [hempty]
  · cases (resolver.resolve d).run with
    | ok type => simp
    | error failure => simp [hempty, eq_comm]

end Declaration

namespace Session

variable {resolver : Resolver Id} {s t : Session} {error : Unresolved}

/-- The error of a visit does not depend on the session. -/
theorem run_visit_snd_eq_failure? (s : Session) (d : Declaration) :
    (s.visit resolver d).run.2 = d.failure? resolver :=
  run_visit_snd resolver s d

/-- A visit to a declaration that fails gives its error, counts as a visit and does nothing else. -/
theorem run_visit_of_failsWith {d : Declaration} (h : d.FailsWith resolver error) (s : Session) :
    (s.visit resolver d).run = ({ s with visited := s.visited + 1 }, some error) := by
  obtain ⟨hmarked, failure, hresolve, rfl⟩ := h
  have hmarkers : d.site.markers.isEmpty = false := by
    simpa using Site.markers_ne_nil_iff.mpr hmarked
  rw [Session.visit, hmarkers, if_neg Bool.false_ne_true, Id.run_bind, hresolve]
  rfl

/-- A visit fails exactly if the declaration fails, with its error. Then the session counts one more
visit and is otherwise as before. -/
theorem run_visit_eq_some_iff {d : Declaration} :
    (s.visit resolver d).run = (t, some error) ↔
      d.FailsWith resolver error ∧ t = { s with visited := s.visited + 1 } := by
  constructor
  · intro h
    have hfails : d.FailsWith resolver error := by
      rw [← Declaration.failure?_eq_some_iff, ← run_visit_snd_eq_failure? s, h]
    rw [run_visit_of_failsWith hfails] at h
    exact ⟨hfails, (Prod.mk.inj h).1.symm⟩
  · rintro ⟨hfails, rfl⟩
    exact run_visit_of_failsWith hfails s

/-- Visits end with an error exactly if it is that of the first declaration that fails. -/
theorem run_visitAll_eq_error_iff {ds : List Declaration} :
    (visitAll resolver s ds).run = .error error ↔
      ds.findSome? (Declaration.failure? resolver) = some error := by
  induction ds generalizing s with
  | nil => simp [visitAll]
  | cons d ds ih =>
    rw [visitAll, Id.run_bind, List.findSome?_cons, ← run_visit_snd_eq_failure? s]
    -- The visits go on from the first visit's session, or they end with its error.
    obtain ⟨u, _ | e⟩ := (s.visit resolver d).run
    · exact ih
    · simp

end Session

namespace Forest

open Session

/-- Generation fails exactly if visiting the declarations does, with the same error. -/
theorem run_generateWith_eq_error_iff {resolver : Resolver Id} {settings : Settings}
    {render : Renderer} {f : Forest} {error : Unresolved} :
    (f.generateWith resolver settings render).run = .error error ↔
      f.subtrees.findSome? (Declaration.failure? resolver) = some error := by
  rw [← run_visitAll_eq_error_iff (s := {}), generateWith, Id.run_bind]
  cases (visitAll resolver {} f.subtrees).run <;> simp

/-- A visit fails exactly if the declaration has a marker and the host cannot resolve it. It fails
with the identity and the name of the declaration and the reason of the host, and leaves the session
as it was, up to the count of visits. Generation with the answers of a host fails exactly if some
declaration of the forest fails, with the error of the first one in the order of the walk.
Generation that asks the forest itself always succeeds, whatever the identities are. -/
theorem visit_and_generate_fail_iff (resolver : Resolver Id) :
    (∀ (s t : Session) (d : Declaration) (error : Unresolved),
      (s.visit resolver d).run = (t, some error) ↔
        d.FailsWith resolver error ∧ t = { s with visited := s.visited + 1 }) ∧
    (∀ (settings : Settings) (render : Renderer) (f : Forest),
      (∃ error, (f.generateWith resolver settings render).run = .error error) ↔
        ∃ d ∈ f.subtrees, ∃ error, d.FailsWith resolver error) ∧
    (∀ (settings : Settings) (render : Renderer) (f : Forest) (error : Unresolved),
      (f.generateWith resolver settings render).run = .error error ↔
        ∃ before d after, f.subtrees = before ++ d :: after ∧
          d.FailsWith resolver error ∧
          ∀ earlier ∈ before, ∀ e, ¬ earlier.FailsWith resolver e) ∧
    ∀ (settings : Settings) (render : Renderer) (f : Forest),
      ∃ output, f.generate settings render = .ok output := by
  refine ⟨fun s t d error => run_visit_eq_some_iff, fun settings render f => ?_,
    fun settings render f error => ?_, fun settings render f => ⟨_, generate_eq settings render f⟩⟩
  · simp only [run_generateWith_eq_error_iff, ← Option.isSome_iff_exists,
      List.findSome?_isSome_iff]
    simp only [Option.isSome_iff_exists, Declaration.failure?_eq_some_iff]
  · rw [run_generateWith_eq_error_iff, List.findSome?_eq_some_iff]
    simp only [Option.eq_none_iff_forall_ne_some, ne_eq, Declaration.failure?_eq_some_iff]

end Forest

end BannerGen
