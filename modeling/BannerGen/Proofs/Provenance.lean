import BannerGen.Generator
import BannerGen.Proofs.Accounting
import BannerGen.Proofs.Ensures
import BannerGen.Proofs.Layout
import BannerGen.Proofs.Recognition
import BannerGen.Proofs.TypeKey

/-!
# Where keys and locations come from

The host that resolves sites may do anything while it answers: keep a count, read a file, fail. What
a session keeps is stated with `Ensures`, and so for all hosts at once.

The invariant here is `Session.DrawsFrom`: the types of the ledger are normalized, whether or not
the host normalizes its answers, and what a session points to is a part of the sites that it has
visited. So is what its output points to (`Forest.ensures_normalized_and_located`).
-/

namespace BannerGen

/-! ### Where literals stand -/

/-- The literals of a marker stand where arguments stand. -/
theorem Marker.Binds.span_get_mem {xs : List Argument} {m : Marker} (h : Binds xs m)
    (p : Parameter) : (m.get p).span ∈ xs.map Argument.span := by
  obtain ⟨i, x, hx, _, hl⟩ := h p
  rw [← (Argument.literal?_eq_some_iff.mp hl).2]
  exact List.mem_map_of_mem (List.mem_of_getElem? hx)

/-- The attribute of a marker and its literals are parts of the site. -/
theorem Site.mem_spans_of_mem_markers {s : Site} {a : Attribute} {m : Marker}
    (h : (a, m) ∈ s.markers) : a.span ∈ s.spans ∧ ∀ p, (m.get p).span ∈ s.spans := by
  obtain ⟨a', ha, hm⟩ := List.mem_filterMap.mp h
  obtain ⟨m', hmarker, heq⟩ := Option.map_eq_some_iff.mp hm
  cases heq
  have hsub : ∀ span ∈ a.spans, span ∈ s.spans := by
    intro span hspan
    have hflat : span ∈ s.attributes.flatMap Attribute.spans := List.mem_flatMap.mpr ⟨a, ha, hspan⟩
    exact List.mem_cons_of_mem _ (List.mem_append_left _ hflat)
  refine ⟨hsub _ List.mem_cons_self, ?_⟩
  intro p
  obtain ⟨_, harguments⟩ := Attribute.recognize_eq_recognized_iff.mp
    (Attribute.marker?_eq_some_iff.mp hmarker)
  have hbinds := (Marker.ofArguments_eq_ok_iff.mp harguments).2
  exact hsub _ (List.mem_cons_of_mem _ (hbinds.span_get_mem p))

/-! ### Sessions -/

/-- What the request points to is among the spans. -/
structure Request.PointsInto (spans : List Span) (r : Request) : Prop where
  /-- The name of the member. -/
  memberName : r.memberNameLocation ∈ spans
  /-- The name of the font. -/
  fontName : r.fontNameLocation ∈ spans
  /-- The marker. -/
  marker : r.location ∈ spans

namespace Session

variable {m : Type → Type} [Monad m] [LawfulMonad m] {resolver : Resolver m} {spans : List Span}
  {s : Session}

/-- The types of the ledger are normalized, and what the session points to is among the spans. -/
structure DrawsFrom (spans : List Span) (s : Session) : Prop where
  /-- The types are normalized. -/
  normalized : ∀ p ∈ s.ledger.entries, p.1.normalized = p.1
  /-- The accepted requests point into the spans. -/
  requests : ∀ p ∈ s.ledger.entries, ∀ r ∈ p.2.requests, r.PointsInto spans
  /-- The diagnostics point into the spans. -/
  diagnostics : ∀ d ∈ s.diagnostics, d.location ∈ spans

theorem drawsFrom_empty : DrawsFrom spans {} where
  normalized := by simp
  requests := by simp
  diagnostics := by simp

theorem DrawsFrom.report (h : DrawsFrom spans s) {d : Diagnostic} (hd : d.location ∈ spans) :
    DrawsFrom spans (s.report d) where
  normalized := h.normalized
  requests := h.requests
  diagnostics := by
    unfold Session.report
    rw [List.forall_mem_append]
    exact ⟨h.diagnostics, by simpa using hd⟩

/-- Setting an entry keeps the invariant if the type and the entry do. -/
theorem DrawsFrom.insert (h : DrawsFrom spans s) {key : TypeKey} {e : Entry}
    (hkey : key.normalized = key) (he : ∀ r ∈ e.requests, r.PointsInto spans) :
    DrawsFrom spans { s with ledger := s.ledger.insert key e } where
  normalized := by
    intro p hp
    rcases Assoc.mem_put hp with rfl | hp
    · exact hkey
    · exact h.normalized p hp
  requests := by
    intro p hp
    rcases Assoc.mem_put hp with rfl | hp
    · exact he
    · exact h.requests p hp
  diagnostics := h.diagnostics

/-- An entry that is found or made anew holds no request but those of the ledger. -/
theorem DrawsFrom.entryOrSeed (h : DrawsFrom spans s) (key : TypeKey) (kind : TypeKind)
    (existing : m (List String)) :
    Ensures (fun e : Entry => ∀ r ∈ e.requests, r.PointsInto spans)
      (s.ledger.entryOrSeed key kind existing) := by
  unfold Ledger.entryOrSeed
  cases he : s.ledger.get? key with
  | some e =>
    obtain ⟨before, after, hentries, _⟩ := List.lookup_eq_some_iff.mp he
    have hmem : (key, e) ∈ s.ledger.entries := by
      rw [hentries]
      exact List.mem_append_right _ List.mem_cons_self
    exact .pure (h.requests _ hmem)
  | none =>
    refine (Ensures.trivially existing).bind ?_
    intro names _
    exact .pure (by simp [Entry.seeded])

/-- Claiming a name keeps the requests and may add the one that claims it. -/
theorem requests_accept (e : Entry) (r : Request) :
    ∀ x ∈ (e.accept r).1.requests, x ∈ e.requests ∨ x = r := by
  intro x hx
  unfold Entry.accept Entry.register at hx
  by_cases htaken : e.IsTaken r.memberName
  · rw [if_pos htaken] at hx
    exact .inl hx
  · rw [if_neg htaken] at hx
    simpa using hx

theorem DrawsFrom.accept (h : DrawsFrom spans s) {key : TypeKey} (kind : TypeKind) {r : Request}
    (hkey : key.normalized = key) (hr : r.PointsInto spans) :
    Ensures (DrawsFrom spans) (s.accept resolver key kind r) := by
  unfold Session.accept
  refine (h.entryOrSeed key kind (resolver.existingMembers key)).bind ?_
  intro e he
  have hrequests : ∀ x ∈ (e.accept r).1.requests, x.PointsInto spans := by
    intro x hx
    rcases requests_accept e r x hx with hold | rfl
    · exact he x hold
    · exact hr
  -- The entry is set whether or not the name was free.
  have hinsert := h.insert hkey hrequests
  generalize e.accept r = outcome at hinsert ⊢
  obtain ⟨entry, _ | _⟩ := outcome
  · exact .pure hinsert
  · exact .pure (hinsert.report hr.memberName)

theorem DrawsFrom.collect (h : DrawsFrom spans s) {site : Site} (type : ResolvedType)
    {marker : Attribute × Marker} (hmarker : marker ∈ site.markers)
    (hsite : ∀ span ∈ site.spans, span ∈ spans) :
    Ensures (DrawsFrom spans) (s.collect resolver site type marker) := by
  obtain ⟨attr, args⟩ := marker
  obtain ⟨hattr, hargs⟩ := Site.mem_spans_of_mem_markers hmarker
  have hspan : attr.span ∈ spans := hsite _ hattr
  have hliteral : ∀ p, (args.get p).span ∈ spans := fun p => hsite _ (hargs p)
  unfold Session.collect
  by_cases hnested : type.isNested = true
  · simp only [hnested, if_true]
    exact .pure (h.report hspan)
  by_cases hpartial : site.isPartial = true
  · by_cases hvalid : Identifier.isValid args.memberName.value = true
    · simp only [hnested, hpartial, hvalid]
      exact h.accept site.kind (TypeKey.normalized_normalized _)
        ⟨hliteral .memberName, hliteral .fontName, hspan⟩
    · simp only [hnested, hpartial, hvalid]
      exact .pure (h.report (hliteral .memberName))
  · simp only [hnested, hpartial]
    exact .pure (h.report hspan)

theorem DrawsFrom.visit (h : DrawsFrom spans s) {d : Declaration}
    (hd : ∀ span ∈ d.site.spans, span ∈ spans) :
    Ensures (fun r => DrawsFrom spans r.1) (s.visit resolver d) := by
  have hcount : DrawsFrom spans { s with visited := s.visited + 1 } :=
    ⟨h.normalized, h.requests, h.diagnostics⟩
  unfold Session.visit
  by_cases hempty : d.site.markers.isEmpty = true
  · simp only [hempty, if_true]
    exact .pure hcount
  simp only [hempty]
  refine (Ensures.trivially (resolver.resolve d)).bind ?_
  rintro (failure | type) _
  · exact .pure hcount
  · -- The markers are handled one after the other.
    refine Ensures.bind (p := DrawsFrom spans) (.foldlM hcount ?_) fun t ht => .pure ht
    intro t ht marker hmarker
    exact ht.collect type hmarker hd

/-- What a session points to after visits is a part of the declarations visited, whatever the host
answers. -/
theorem DrawsFrom.visitAll (h : DrawsFrom spans s) {ds : List Declaration}
    (hds : ∀ d ∈ ds, ∀ span ∈ d.site.spans, span ∈ spans) :
    Ensures (fun r => ∀ t, r = .ok t → DrawsFrom spans t) (s.visitAll resolver ds) := by
  induction ds generalizing s with
  | nil =>
    refine .pure ?_
    rintro t ⟨⟩
    exact h
  | cons d ds ih =>
    rw [List.forall_mem_cons] at hds
    rw [Session.visitAll]
    refine (h.visit hds.1).bind ?_
    rintro ⟨t, _ | error⟩ ht
    · exact ih ht hds.2
    · refine .pure ?_
      rintro u ⟨⟩

/-! ### Outputs -/

theorem DrawsFrom.finish (h : DrawsFrom spans s) (settings : Settings) (render : Renderer) :
    (∀ fragment ∈ (s.finish settings render).fragments,
      fragment.key.normalized = fragment.key) ∧
    ∀ d ∈ (s.finish settings render).diagnostics, d.location ∈ spans := by
  unfold Session.finish
  constructor
  · rw [List.forall_mem_map]
    exact h.normalized
  · intro d hd
    rw [(ordered_perm settings.diagnostics.order _).mem_iff, List.mem_append] at hd
    rcases hd with hd | hd
    · exact h.diagnostics d hd
    · -- An unknown font is reported where the request of an entry names it.
      obtain ⟨⟨key, e⟩, hentry, hd⟩ := List.mem_flatMap.mp hd
      obtain ⟨r, hr, hd⟩ := List.mem_filterMap.mp hd
      rw [inSourceOrder, (Span.sortBy_perm _ _).mem_iff] at hr
      cases hrender : render r.fontName r.sourceText with
      | some text => simp [hrender] at hd
      | none =>
        simp only [hrender, Option.some.injEq] at hd
        rw [← hd]
        exact (h.requests _ hentry r hr).fontName

end Session

/-- Whatever the host answers, the fragments of an output belong to normalized types, and its
diagnostics point to parts of the forest. -/
theorem Forest.ensures_normalized_and_located {m : Type → Type} [Monad m] [LawfulMonad m]
    (resolver : Resolver m) (settings : Settings) (render : Renderer) (f : Forest) :
    Ensures (fun r => ∀ o : Output, r = .ok o →
        (∀ fragment ∈ o.fragments, fragment.key.normalized = fragment.key) ∧
          ∀ d ∈ o.diagnostics, d.location ∈ f.spans)
      (f.generateWith resolver settings render) := by
  have hds : ∀ d ∈ f.subtrees, ∀ span ∈ d.site.spans, span ∈ f.spans := by
    intro d hd span hspan
    exact List.mem_flatMap.mpr ⟨d.site, site_mem_walk hd, hspan⟩
  unfold generateWith
  refine (Session.drawsFrom_empty.visitAll hds).bind ?_
  rintro (error | s) hs
  · refine .pure ?_
    rintro o ⟨⟩
  · refine .pure ?_
    rintro o ⟨⟩
    exact (hs s rfl).finish settings render

end BannerGen
