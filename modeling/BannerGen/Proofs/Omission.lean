import BannerGen.Proofs.Contention

/-!
# Leaving out an attribute

An attribute that comes to nothing may as well not be there (`Session.visitAll_omit_attribute`). If
it is no marker, or a marker that is not eligible, then a run without it ends with the same ledger.
If its name clashes, it may have opened the entry of its type and decided on the kind, so the ledger
may differ without it; but the accepted requests are the same for every type. In all cases its own
diagnostic is missing and the others stay.

The reason is that an occurrence that is rejected claims nothing: whatever clashes with it also
clashes with what it was rejected for (`clashes_append_cons`). So the outcomes of the occurrences
after it do not depend on it.
-/

namespace BannerGen

open Occurrence

/-! ### Leaving out an occurrence -/

section Occurrences

variable {resolver : Resolver Id} {xs ys : List Occurrence} {a b : Occurrence} {d : Diagnostic}

/-- An occurrence that is rejected does not make a later one clash. -/
theorem clashes_append_cons (h : a.rejection? resolver xs = some d) :
    b.Clashes resolver (xs ++ a :: ys) ↔ b.Clashes resolver (xs ++ ys) := by
  constructor
  · rintro (hmember | ⟨c, hc, hfor, hname⟩)
    · exact .inl hmember
    · rw [List.mem_append, List.mem_cons] at hc
      rcases hc with hc | rfl | hc
      · exact .inr ⟨c, List.mem_append_left ys hc, hfor, hname⟩
      · -- The occurrence was rejected for a clash, and that is a clash for the later one too.
        obtain ⟨heligible, hkey⟩ := hfor
        have hclash : c.Clashes resolver xs := by
          by_contra hfree
          rw [rejection?_eq_none_iff.mpr ⟨heligible, hfree⟩] at h
          cases h
        rw [Clashes, hkey, hname] at hclash
        rcases hclash with hmember | ⟨c', hc', hfor', hname'⟩
        · exact .inl hmember
        · exact .inr ⟨c', List.mem_append_left ys hc', hfor', hname'⟩
      · exact .inr ⟨c, List.mem_append_right xs hc, hfor, hname⟩
  · have hsublist : (xs ++ ys).Sublist (xs ++ a :: ys) :=
      (List.sublist_cons_self a ys).append_left xs
    rintro (hmember | ⟨c, hc, hfor, hname⟩)
    · exact .inl hmember
    · exact .inr ⟨c, hsublist.subset hc, hfor, hname⟩

/-- The outcome of a later occurrence does not depend on one that is rejected. -/
theorem rejection?_append_cons (h : a.rejection? resolver xs = some d) :
    b.rejection? resolver (xs ++ a :: ys) = b.rejection? resolver (xs ++ ys) := by
  simp only [rejection?, clashes_append_cons h]

/-- Without an occurrence that is rejected, the same ones are accepted. -/
theorem accepted_append_cons (h : a.rejection? resolver xs = some d) :
    accepted resolver (xs ++ a :: ys) = accepted resolver (xs ++ ys) := by
  -- By induction on the occurrences after it, the last one first: an outcome depends on what is
  -- before.
  induction ys using List.reverseRecOn with
  | nil =>
    rw [accepted_concat, h, List.append_nil]
    exact List.append_nil _
  | append_singleton ys b ih =>
    rw [← List.cons_append, ← List.append_assoc, ← List.append_assoc, accepted_concat,
      accepted_concat, ih, rejection?_append_cons h]

/-- Without an occurrence that is rejected, its diagnostic is missing and the others stay. -/
theorem exists_rejections_append_cons (h : a.rejection? resolver xs = some d)
    (ys : List Occurrence) :
    ∃ later, rejections resolver (xs ++ a :: ys) = rejections resolver xs ++ d :: later ∧
      rejections resolver (xs ++ ys) = rejections resolver xs ++ later := by
  induction ys using List.reverseRecOn with
  | nil =>
    refine ⟨[], ?_, by simp⟩
    rw [rejections_concat, h]
    rfl
  | append_singleton ys b ih =>
    obtain ⟨later, hwith, hwithout⟩ := ih
    refine ⟨later ++ (b.rejection? resolver (xs ++ ys)).toList, ?_, ?_⟩
    · rw [← List.cons_append, ← List.append_assoc, rejections_concat, hwith,
        rejection?_append_cons h, List.append_assoc, List.cons_append]
    · rw [← List.append_assoc, rejections_concat, hwithout, List.append_assoc]

theorem acceptedFor_append_cons (h : a.rejection? resolver xs = some d) (key : TypeKey) :
    acceptedFor resolver (xs ++ a :: ys) key = acceptedFor resolver (xs ++ ys) key := by
  rw [acceptedFor, acceptedFor, accepted_append_cons h]

theorem eligibleFor_cons (key : TypeKey) :
    eligibleFor (a :: ys) key =
      if a.IsEligibleFor key then a :: eligibleFor ys key else eligibleFor ys key := by
  by_cases h : a.IsEligibleFor key <;> simp [eligibleFor, h]

/-- An occurrence that is not eligible leaves every entry as it is. -/
theorem entryFor_append_cons (h : a.rejection? resolver xs = some d) (ha : ¬ a.IsEligible)
    (key : TypeKey) :
    entryFor resolver (xs ++ a :: ys) key = entryFor resolver (xs ++ ys) key := by
  have heligible : eligibleFor (xs ++ a :: ys) key = eligibleFor (xs ++ ys) key := by
    rw [eligibleFor_append, eligibleFor_cons, if_neg fun hfor => ha hfor.1, ← eligibleFor_append]
  simp only [entryFor, entryOf, heligible, acceptedFor_append_cons h]

/-- An occurrence that is not eligible adds no type. -/
theorem eligibleKeys_append_cons (ha : ¬ a.IsEligible) :
    eligibleKeys (xs ++ a :: ys) = eligibleKeys (xs ++ ys) := by
  rw [eligibleKeys, eligibleKeys, List.filter_append, List.filter_append,
    List.filter_cons_of_neg (by simpa using ha)]

/-- A type that is missing without an occurrence has no other eligible occurrence. -/
theorem eligibleFor_of_not_mem_eligibleKeys {key : TypeKey}
    (hwith : key ∈ eligibleKeys (xs ++ a :: ys)) (hwithout : key ∉ eligibleKeys (xs ++ ys)) :
    eligibleFor (xs ++ a :: ys) key = [a] ∧ eligibleFor (xs ++ ys) key = [] := by
  have hnone : ∀ b ∈ xs ++ ys, ¬ b.IsEligibleFor key := by
    intro b hb hfor
    exact hwithout (mem_eligibleKeys.mpr ⟨b, hb, hfor⟩)
  have hnil : eligibleFor (xs ++ ys) key = [] := by
    rw [eligibleFor, List.filter_eq_nil_iff]
    simpa using hnone
  obtain ⟨c, hc, hfor⟩ := mem_eligibleKeys.mp hwith
  have hca : c = a := by
    rw [List.mem_append, List.mem_cons] at hc
    rcases hc with hc | rfl | hc
    · exact absurd hfor (hnone c (List.mem_append_left ys hc))
    · rfl
    · exact absurd hfor (hnone c (List.mem_append_right xs hc))
  subst hca
  refine ⟨?_, hnil⟩
  rw [eligibleFor_append, List.append_eq_nil_iff] at hnil
  rw [eligibleFor_append, eligibleFor_cons, if_pos hfor, hnil.1, hnil.2, List.nil_append]

end Occurrences

/-! ### Leaving out an attribute -/

/-- The declaration with other attributes on its site. -/
def Declaration.withAttributes (decl : Declaration) (attrs : List Attribute) : Declaration :=
  .mk { decl.site with attributes := attrs } decl.nested

theorem Declaration.markers_withAttributes (decl : Declaration) (attrs : List Attribute) :
    (decl.withAttributes attrs).site.markers =
      attrs.filterMap fun attr => attr.marker?.map (attr, ·) := rfl

/-- The occurrences of attributes that stand on a declaration; none if it cannot be resolved. -/
def occurrencesOf (resolver : Resolver Id) (decl : Declaration) (attrs : List Attribute) :
    List Occurrence :=
  match (resolver.resolve decl).run with
  | .ok type => (decl.withAttributes attrs).site.markers.map (.ofMarker decl.site type)
  | .error _ => []

/-- The host gives the same answer for the declaration with other attributes. It is asked about the
declaration only if there are markers among them. -/
def Resolver.KeepsAnswer (resolver : Resolver Id) (decl : Declaration) (attrs : List Attribute) :
    Prop :=
  (decl.withAttributes attrs).site.markers ≠ [] →
    (resolver.resolve (decl.withAttributes attrs)).run = (resolver.resolve decl).run

/-- The attribute is a marker, and where it stands on the declaration, after the `earlier`
occurrences, it is rejected with the diagnostic. -/
def Attribute.Yields (resolver : Resolver Id) (earlier : List Occurrence) (decl : Declaration)
    (attr : Attribute) (d : Diagnostic) : Prop :=
  ∃ m type, attr.recognize = .recognized m ∧ (resolver.resolve decl).run = .ok type ∧
    (Occurrence.ofMarker decl.site type (attr, m)).rejection? resolver earlier = some d

section Attributes

variable {resolver : Resolver Id} {decl : Declaration} {attr : Attribute}

theorem occurrencesOf_attributes (resolver : Resolver Id) (decl : Declaration) :
    occurrencesOf resolver decl decl.site.attributes = occurrencesAt resolver decl := rfl

theorem occurrencesOf_append (attrs attrs' : List Attribute) :
    occurrencesOf resolver decl (attrs ++ attrs') =
      occurrencesOf resolver decl attrs ++ occurrencesOf resolver decl attrs' := by
  simp only [occurrencesOf]
  cases (resolver.resolve decl).run with
  | error failure => rfl
  | ok type =>
    simp only [Declaration.markers_withAttributes, List.filterMap_append, List.map_append]

theorem occurrencesOf_singleton_of_not_recognized (h : ∀ m, attr.recognize ≠ .recognized m) :
    occurrencesOf resolver decl [attr] = [] := by
  have hnone : attr.marker? = none := by
    rw [Option.eq_none_iff_forall_ne_some]
    intro m hm
    exact h m (Attribute.marker?_eq_some_iff.mp hm)
  simp only [occurrencesOf]
  cases (resolver.resolve decl).run with
  | error failure => rfl
  | ok type => simp [Declaration.markers_withAttributes, hnone]

theorem occurrencesOf_singleton_of_recognized {m : Marker} {type : ResolvedType}
    (hm : attr.recognize = .recognized m) (htype : (resolver.resolve decl).run = .ok type) :
    occurrencesOf resolver decl [attr] = [.ofMarker decl.site type (attr, m)] := by
  have hsome : attr.marker? = some m := Attribute.marker?_eq_some_iff.mpr hm
  simp [occurrencesOf, htype, Declaration.markers_withAttributes, hsome]

end Attributes

namespace Session

variable {resolver : Resolver Id} {as bs : List Occurrence} {s t : Session} {decl : Declaration}

/-- Sessions that reflect the same types and entries hold the same ledger. -/
theorem Reflects.ledger_eq (hs : Reflects resolver as s) (ht : Reflects resolver bs t)
    (hkeys : eligibleKeys as = eligibleKeys bs)
    (hentries : ∀ key, entryFor resolver as key = entryFor resolver bs key) :
    s.ledger = t.ledger := by
  have hlists : s.ledger.entries = t.ledger.entries := by
    rw [hs.entries_eq, ht.entries_eq, hkeys]
    simp only [hentries]
  exact congrArg Ledger.mk hlists

/-- Fragments are written from the ledger. -/
theorem finish_fragments_congr (h : t.ledger = s.ledger) (settings : Settings)
    (render : Renderer) :
    (t.finish settings render).fragments = (s.finish settings render).fragments := by
  rw [finish, finish, h]

/-- Fragments are written for the types of the ledger. -/
theorem map_key_fragments (s : Session) (settings : Settings) (render : Renderer) :
    (s.finish settings render).fragments.map Fragment.key = s.ledger.keys := by
  rw [finish, List.map_map]
  rfl

section Rejected

variable {xs ys : List Occurrence} {a : Occurrence} {d : Diagnostic}

/-- Without an occurrence that is not eligible, the ledger is the same. -/
theorem Reflects.ledger_eq_of_rejected (hs : Reflects resolver (xs ++ a :: ys) s)
    (ht : Reflects resolver (xs ++ ys) t) (h : a.rejection? resolver xs = some d)
    (ha : ¬ a.IsEligible) : t.ledger = s.ledger :=
  (hs.ledger_eq ht (eligibleKeys_append_cons ha) (entryFor_append_cons h ha)).symm

/-- Without an occurrence that is rejected, the accepted requests are the same. -/
theorem Reflects.requests_eq_of_rejected (hs : Reflects resolver (xs ++ a :: ys) s)
    (ht : Reflects resolver (xs ++ ys) t) (h : a.rejection? resolver xs = some d)
    (key : TypeKey) : t.ledger.requests key = s.ledger.requests key := by
  rw [hs.requests, ht.requests, acceptedFor_append_cons h]

/-- Without an occurrence, there are no types that were not there with it. -/
theorem Reflects.keys_subset (hs : Reflects resolver (xs ++ a :: ys) s)
    (ht : Reflects resolver (xs ++ ys) t) : t.ledger.keys ⊆ s.ledger.keys := by
  rw [hs.keys, ht.keys]
  intro key hkey
  obtain ⟨b, hb, hfor⟩ := mem_eligibleKeys.mp hkey
  have hsublist : (xs ++ ys).Sublist (xs ++ a :: ys) :=
    (List.sublist_cons_self a ys).append_left xs
  exact mem_eligibleKeys.mpr ⟨b, hsublist.subset hb, hfor⟩

/-- A type that is missing without an occurrence that is rejected had no accepted requests and no
other eligible occurrence. -/
theorem Reflects.requests_of_missing (hs : Reflects resolver (xs ++ a :: ys) s)
    (ht : Reflects resolver (xs ++ ys) t) (h : a.rejection? resolver xs = some d)
    {key : TypeKey} (hwith : key ∈ s.ledger.keys) (hwithout : key ∉ t.ledger.keys) :
    s.ledger.requests key = [] ∧ eligibleFor (xs ++ a :: ys) key = [a] := by
  rw [hs.keys] at hwith
  rw [ht.keys] at hwithout
  obtain ⟨hself, hnil⟩ := eligibleFor_of_not_mem_eligibleKeys hwith hwithout
  have hsublist := acceptedFor_sublist_eligibleFor resolver (xs ++ ys) key
  rw [hnil, List.sublist_nil] at hsublist
  refine ⟨?_, hself⟩
  rw [← hs.requests_eq_of_rejected ht h, ht.requests, hsublist, List.map_nil]

end Rejected

/-- Visiting a declaration with other attributes adds their occurrences, if the host resolves it as
before. -/
theorem Reflects.visit_withAttributes (h : Reflects resolver as s) {attrs : List Attribute}
    (hhost : resolver.KeepsAnswer decl attrs) :
    Reflects resolver (as ++ occurrencesOf resolver decl attrs)
      (s.visit resolver (decl.withAttributes attrs)).run.1 := by
  have hcount : Reflects resolver as { s with visited := s.visited + 1 } := h.congr rfl rfl
  rw [occurrencesOf, Session.visit]
  by_cases hempty : (decl.withAttributes attrs).site.markers = []
  · -- The host is not asked, and what it would say of the declaration does not matter.
    rw [if_pos (by simp [hempty])]
    cases (resolver.resolve decl).run <;> simpa [hempty] using hcount
  · rw [if_neg (by simpa using hempty), Id.run_bind, hhost hempty]
    cases (resolver.resolve decl).run with
    | ok type =>
      -- A marker is handled by the name, the kind and the partiality of its site only.
      exact hcount.collectAll decl.site type (decl.withAttributes attrs).site.markers
    | error failure => simpa using hcount

/-! ### Two runs -/

section Runs

variable {before after : List Declaration} {pre post : List Attribute} {attr : Attribute}

/-- The occurrences of a run, divided at one attribute of one declaration. -/
theorem occurrences_eq_append (hattrs : decl.site.attributes = pre ++ attr :: post) :
    occurrences resolver (before ++ decl :: after) =
      occurrences resolver before ++ occurrencesOf resolver decl pre ++
        (occurrencesOf resolver decl [attr] ++
          (occurrencesOf resolver decl post ++ occurrences resolver after)) := by
  have hdecl : occurrencesAt resolver decl = occurrencesOf resolver decl pre ++
      (occurrencesOf resolver decl [attr] ++ occurrencesOf resolver decl post) := by
    rw [← occurrencesOf_attributes, hattrs, occurrencesOf_append, ← occurrencesOf_append [attr]]
    rfl
  rw [occurrences, List.flatMap_append, List.flatMap_cons, hdecl]
  simp only [occurrences, List.append_assoc]

/-- The session of a run without the attribute. -/
theorem reflects_withAttributes (hhost : resolver.KeepsAnswer decl (pre ++ post)) :
    Reflects resolver
      (occurrences resolver before ++ occurrencesOf resolver decl pre ++
        (occurrencesOf resolver decl post ++ occurrences resolver after))
      (visitEach resolver {} (before ++ decl.withAttributes (pre ++ post) :: after)) := by
  have hvisits := ((reflects_visitEach resolver before).visit_withAttributes hhost).visitEach after
  rw [occurrencesOf_append, ← List.append_assoc, List.append_assoc _ _ (occurrences _ _)] at hvisits
  rw [visitEach, List.foldl_append]
  exact hvisits

/-- Visits succeed without the attribute, if they do with it. -/
theorem run_visitAll_withAttributes (hattrs : decl.site.attributes = pre ++ attr :: post)
    (hs : (visitAll resolver {} (before ++ decl :: after)).run = .ok s)
    (hhost : resolver.KeepsAnswer decl (pre ++ post)) :
    (visitAll resolver {} (before ++ decl.withAttributes (pre ++ post) :: after)).run =
      .ok (visitEach resolver {} (before ++ decl.withAttributes (pre ++ post) :: after)) := by
  obtain ⟨hresolvable, -⟩ := run_visitAll_eq_ok_iff.mp hs
  refine run_visitAll_eq_ok_iff.mpr ⟨?_, rfl⟩
  intro x hx
  rw [List.mem_append, List.mem_cons] at hx
  rcases hx with hx | rfl | hx
  · exact hresolvable x (List.mem_append_left _ hx)
  · by_cases hempty : (decl.withAttributes (pre ++ post)).site.markers = []
    · exact .inl hempty
    · -- The declaration had these markers before, so it was resolved then.
      have hsublist :
          (decl.withAttributes (pre ++ post)).site.markers.Sublist decl.site.markers := by
        rw [Site.markers, Site.markers, hattrs]
        exact ((List.sublist_cons_self attr post).append_left pre).filterMap _
      rcases hresolvable decl (List.mem_append_right _ List.mem_cons_self) with hnone | htype
      · rw [hnone, List.sublist_nil] at hsublist
        exact absurd hsublist hempty
      · rw [hhost hempty]
        exact .inr htype
  · exact hresolvable x (List.mem_append_right _ (List.mem_cons_of_mem _ hx))

/-- Suppose that visits to declarations succeed, and that one attribute of one of them is left out.
If the host has to be asked about what is left, suppose that it gives the same answer as with the
attribute. Then the visits succeed too.

If the attribute is no marker, the ledger and the diagnostics are the same. If it is a marker that
is rejected, exactly its diagnostic is missing. If it is rejected for another reason than a clash,
the ledger is the same, and so are the fragments. If it is rejected for a clash, the accepted
requests are the same for every type, and a type can be missing only if it has no accepted requests
and the marker left out is the only one that is eligible for it. -/
theorem visitAll_omit_attribute (hattrs : decl.site.attributes = pre ++ attr :: post)
    (hs : (visitAll resolver {} (before ++ decl :: after)).run = .ok s)
    (hhost : resolver.KeepsAnswer decl (pre ++ post)) :
    let earlier := occurrences resolver before ++ occurrencesOf resolver decl pre
    ∃ t, (visitAll resolver {} (before ++ decl.withAttributes (pre ++ post) :: after)).run = .ok t ∧
      ((∀ m, attr.recognize ≠ .recognized m) →
        t.diagnostics = s.diagnostics ∧ t.ledger = s.ledger ∧
          ∀ (settings : Settings) (render : Renderer),
            (t.finish settings render).fragments = (s.finish settings render).fragments) ∧
      ∀ d, attr.Yields resolver earlier decl d →
        (∃ later, s.diagnostics = rejections resolver earlier ++ d :: later ∧
          t.diagnostics = rejections resolver earlier ++ later) ∧
        (d.kind ≠ .duplicateMemberName → t.ledger = s.ledger ∧
          ∀ (settings : Settings) (render : Renderer),
            (t.finish settings render).fragments = (s.finish settings render).fragments) ∧
        (d.kind = .duplicateMemberName →
          (∀ key, t.ledger.requests key = s.ledger.requests key) ∧
          t.ledger.keys ⊆ s.ledger.keys ∧
          ∀ key ∈ s.ledger.keys, key ∉ t.ledger.keys → s.ledger.requests key = [] ∧
            ∃ a, eligibleFor (occurrences resolver (before ++ decl :: after)) key = [a] ∧
              a.site = decl.site ∧ a.attr = attr) := by
  intro earlier
  have hwithout : Reflects resolver
      (earlier ++ (occurrencesOf resolver decl post ++ occurrences resolver after))
      (visitEach resolver {} (before ++ decl.withAttributes (pre ++ post) :: after)) :=
    reflects_withAttributes hhost
  have hwith : Reflects resolver (occurrences resolver (before ++ decl :: after)) s := by
    rw [← (run_visitAll_eq_ok_iff.mp hs).2]
    exact reflects_visitEach resolver _
  rw [occurrences_eq_append hattrs] at hwith ⊢
  refine ⟨_, run_visitAll_withAttributes hattrs hs hhost, fun hno => ?_, ?_⟩
  · -- The attribute has no occurrence, so both sessions reflect the same ones.
    rw [occurrencesOf_singleton_of_not_recognized hno, List.nil_append] at hwith
    have hledger := hwithout.ledger_eq hwith rfl fun _ => rfl
    exact ⟨hwithout.diagnostics.trans hwith.diagnostics.symm, hledger,
      finish_fragments_congr hledger⟩
  · rintro d ⟨m, type, hm, htype, hrejected⟩
    rw [occurrencesOf_singleton_of_recognized hm htype, List.singleton_append] at hwith ⊢
    refine ⟨?_, fun hkind => ?_, fun hkind => ⟨hwith.requests_eq_of_rejected hwithout hrejected,
      hwith.keys_subset hwithout, fun key hkey hmissing => ?_⟩⟩
    · rw [hwith.diagnostics, hwithout.diagnostics]
      exact exists_rejections_append_cons hrejected _
    · have hledger := hwith.ledger_eq_of_rejected hwithout hrejected
        ((kind_of_rejection? hrejected).not.mp hkind)
      exact ⟨hledger, finish_fragments_congr hledger⟩
    · obtain ⟨hnone, hself⟩ := hwith.requests_of_missing hwithout hrejected hkey hmissing
      exact ⟨hnone, _, hself, rfl, rfl⟩

/-- The name of the only marker of a type clashes with a member that the type has. Without the
marker the type is missing, with its diagnostic, and nothing changes for the other type. -/
theorem visitAll_omit_attribute_clash :
    let a : Declaration := .mk
      { id := 1, name := "A", isPartial := true, attributes := [.ofTexts "L" "big" "x"] } []
    let b : Declaration := .mk
      { id := 2, name := "B", isPartial := true
        attributes := [{ name := "Obsolete" }, .ofTexts "@M" "big" "x"] } []
    let resolver : Resolver Id :=
      { resolve := fun d => .ok { key := d.site.key }, existingMembers := fun _ => ["M"] }
    ∃ s t, (visitAll resolver {} [a, b]).run = .ok s ∧
      (visitAll resolver {} [a, b.withAttributes [{ name := "Obsolete" }]]).run = .ok t ∧
      s.ledger.keys = [{ name := "A" }, { name := "B" }] ∧ t.ledger.keys = [{ name := "A" }] ∧
      s.diagnostics = [.about .duplicateMemberName {} "@M"] ∧ t.diagnostics = [] ∧
      ∀ key, t.ledger.requests key = s.ledger.requests key := by
  intro a b resolver
  have hs : (visitAll resolver {} ([a] ++ b :: [])).run = .ok (visitEach resolver {} [a, b]) :=
    run_visitAll {} [a, b] fun d _ => ⟨_, rfl⟩
  have hattrs : b.site.attributes = [{ name := "Obsolete" }] ++ .ofTexts "@M" "big" "x" :: [] := rfl
  obtain ⟨t, ht, -, hrejected⟩ := visitAll_omit_attribute hattrs hs fun _ => rfl
  have hyields : (Attribute.ofTexts "@M" "big" "x").Yields resolver
      (occurrences resolver [a] ++ occurrencesOf resolver b [{ name := "Obsolete" }]) b
      (.about .duplicateMemberName {} "@M") :=
    ⟨⟨⟨"@M", {}⟩, ⟨"big", {}⟩, ⟨"x", {}⟩⟩, { key := b.site.key }, by decide +kernel, rfl,
      by decide +kernel⟩
  obtain ⟨-, -, hclash⟩ := hrejected _ hyields
  have heq : visitEach resolver {} [a, b.withAttributes [{ name := "Obsolete" }]] = t :=
    (run_visitAll_eq_ok_iff.mp ht).2
  refine ⟨_, t, hs, ht, by decide +kernel, ?_, by decide +kernel, ?_, (hclash rfl).1⟩
  · rw [← heq]
    decide +kernel
  · rw [← heq]
    decide +kernel

/-- A host may read attributes that generation does not recognize. This one puts what is obsolete
into a namespace of its own, so without that attribute the member goes to another type. -/
theorem visitAll_omit_attribute_read_by_host :
    let obsolete : Attribute := { name := "Obsolete" }
    let marker : Attribute := .ofTexts "M" "big" "x"
    let a : Declaration := .mk
      { id := 1, name := "A", isPartial := true, attributes := [obsolete, marker] } []
    let resolver : Resolver Id :=
      { resolve := fun d => .ok
          { key := .of d.site.name (if obsolete ∈ d.site.attributes then some "Old" else none) }
        existingMembers := fun _ => [] }
    obsolete.recognize = .notRecognized ∧
      ∃ s t, (visitAll resolver {} [a]).run = .ok s ∧
        (visitAll resolver {} [a.withAttributes [marker]]).run = .ok t ∧
        s.ledger.keys = [{ name := "A", scope := some "Old" }] ∧ t.ledger.keys = [{ name := "A" }] ∧
        t.ledger ≠ s.ledger ∧
        ∀ (settings : Settings) (render : Renderer),
          (t.finish settings render).fragments ≠ (s.finish settings render).fragments := by
  intro obsolete marker a resolver
  have hs : (visitAll resolver {} [a]).run = .ok (visitEach resolver {} [a]) :=
    run_visitAll {} [a] fun d _ => ⟨_, rfl⟩
  have ht : (visitAll resolver {} [a.withAttributes [marker]]).run =
      .ok (visitEach resolver {} [a.withAttributes [marker]]) :=
    run_visitAll {} [a.withAttributes [marker]] fun d _ => ⟨_, rfl⟩
  have hold : (visitEach resolver {} [a]).ledger.keys = [{ name := "A", scope := some "Old" }] := by
    decide +kernel
  have hnew : (visitEach resolver {} [a.withAttributes [marker]]).ledger.keys =
      [{ name := "A" }] := by decide +kernel
  refine ⟨by decide +kernel, _, _, hs, ht, hold, hnew, fun heq => ?_, fun settings render heq => ?_⟩
  · rw [heq, hold] at hnew
    simp at hnew
  · -- The fragments belong to the types of the ledgers.
    have hkeys := congrArg (List.map Fragment.key) heq
    rw [map_key_fragments, map_key_fragments, hold, hnew] at hkeys
    simp at hkeys

end Runs

end Session

end BannerGen
