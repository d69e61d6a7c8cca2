import BannerGen.Proofs.Consultation

/-!
# Names of fragments

The name of a fragment is the text of its key and a suffix that all fragments share. Since a name of
a type has no dot, the last dot in the text of a key divides the namespace from the name, whatever
dots the namespace has. `TypeKey.ofDotted` reads a key from its text in this way, and finds the
normalized key (`TypeKey.ofDotted_toString`). So two keys have the same text, or the same fragment
name, exactly if they are keys of the same type.

In a run, the types of the ledger differ from each other and are normalized, so fragments have
different names (`Session.ListsOnly.nodup_hintNames`).
-/

namespace BannerGen

/-! ### Trimming -/

namespace Text

/-- A text is what trimming leaves of it, between two other texts. -/
theorem exists_eq_append_trim (s : String) : ∃ before after, s = before ++ trim s ++ after := by
  have hstart : s.toList = s.toList.takeWhile isBlank ++ s.toList.dropWhile isBlank :=
    List.takeWhile_append_dropWhile.symm
  have hend : s.toList.dropWhile isBlank =
      trimChars s.toList ++ (s.toList.dropWhile isBlank).rtakeWhile isBlank :=
    (List.rdropWhile_append_rtakeWhile ..).symm
  refine ⟨.ofList (s.toList.takeWhile isBlank),
    .ofList ((s.toList.dropWhile isBlank).rtakeWhile isBlank), ?_⟩
  rw [trim, ← String.ofList_append, ← String.ofList_append, List.append_assoc, ← hend, ← hstart,
    String.ofList_toList]

/-- Trimming that takes away no bytes takes away nothing. -/
theorem trim_eq_self_of_utf8ByteSize_eq {s : String}
    (h : (trim s).utf8ByteSize = s.utf8ByteSize) : trim s = s := by
  obtain ⟨before, after, hs⟩ := exists_eq_append_trim s
  have hsize := congrArg String.utf8ByteSize hs
  rw [String.utf8ByteSize_append, String.utf8ByteSize_append, h] at hsize
  have hbefore : before = "" := String.utf8ByteSize_eq_zero_iff.mp (by omega)
  have hafter : after = "" := String.utf8ByteSize_eq_zero_iff.mp (by omega)
  rw [hbefore, hafter, String.empty_append, String.append_empty] at hs
  exact hs.symm

end Text

/-- Normalizing is trimming and leaving out what is empty then. -/
theorem normalizeScope_eq_filter (scope : Option String) :
    normalizeScope scope = (scope.map Text.trim).filter (· ≠ "") := by
  cases scope with
  | none => rfl
  | some s => by_cases h : Text.trim s = "" <;> simp [normalizeScope, Option.filter, h]

/-- A path that loses no bytes by trimming can be kept. -/
theorem normalizeScope_eq_bind (scope : Option String) :
    normalizeScope scope = scope.bind fun s =>
      if Text.trim s = "" then none
      else if (Text.trim s).utf8ByteSize = s.utf8ByteSize then some s
      else some (Text.trim s) := by
  unfold normalizeScope
  cases scope with
  | none => rw [Option.bind_none, Option.bind_none]
  | some s =>
    rw [Option.bind_some, Option.bind_some]
    by_cases hsize : (Text.trim s).utf8ByteSize = s.utf8ByteSize
    · rw [if_pos hsize, Text.trim_eq_self_of_utf8ByteSize_eq hsize]
    · rw [if_neg hsize]

/-! ### The text of a key -/

namespace TypeKey

variable {k k₁ k₂ : TypeKey}

@[simp]
theorem path_normalized (k : TypeKey) : k.normalized.path = k.path :=
  normalizeScope_normalizeScope k.scope

theorem toString_eq (k : TypeKey) : toString k = k.path.elim k.name (· ++ "." ++ k.name) := by
  simp only [toString]
  cases k.path <;> rfl

/-- The text of a key is that of its normalized form. -/
@[simp]
theorem toString_normalized (k : TypeKey) : toString k.normalized = toString k := by
  rw [toString_eq, toString_eq, path_normalized, name_normalized]

/-- The key whose name is what stands after the last dot, in the namespace that stands before it; in
the global namespace if there is no dot. -/
def ofDotted (s : String) : TypeKey where
  name := .ofList (s.toList.rtakeWhile (· ≠ '.'))
  scope :=
    let before := s.toList.rdropWhile (· ≠ '.')
    if before = [] then none else some (.ofList before.dropLast)

theorem ofDotted_append {p name : String} (h : '.' ∉ name.toList) :
    ofDotted (p ++ "." ++ name) = { name, scope := some p } := by
  have hchars : (p ++ "." ++ name).toList = p.toList ++ '.' :: name.toList := by simp
  have hdot : ∀ c ∈ name.toList.reverse, decide (c ≠ '.') = true := by
    intro c hc
    rw [decide_eq_true_eq]
    rintro rfl
    exact h (List.mem_reverse.mp hc)
  -- From the end, the characters of the name come first, then the last dot.
  have htake : (p ++ "." ++ name).toList.rtakeWhile (· ≠ '.') = name.toList := by
    rw [hchars, List.rtakeWhile, List.reverse_append, List.reverse_cons, List.append_assoc,
      List.takeWhile_append_of_pos hdot]
    simp
  have hdrop : (p ++ "." ++ name).toList.rdropWhile (· ≠ '.') = p.toList ++ ['.'] := by
    rw [hchars, List.rdropWhile, List.reverse_append, List.reverse_cons, List.append_assoc,
      List.dropWhile_append_of_pos hdot]
    simp
  unfold ofDotted
  rw [htake, hdrop]
  simp

theorem ofDotted_of_not_mem {name : String} (h : '.' ∉ name.toList) :
    ofDotted name = { name } := by
  have hdot : ∀ c ∈ name.toList, decide (c ≠ '.') = true := by
    intro c hc
    rw [decide_eq_true_eq]
    rintro rfl
    exact h hc
  unfold ofDotted
  rw [List.rtakeWhile_eq_self_iff.mpr hdot, List.rdropWhile_eq_nil_iff.mpr hdot]
  simp

/-- A key is read from its text up to normalization. -/
theorem ofDotted_toString (h : '.' ∉ k.name.toList) : ofDotted (toString k) = k.normalized := by
  -- The normalized key has the path as its namespace, and the text is made from it.
  rw [toString_eq]
  show ofDotted _ = { name := k.name, scope := k.path }
  cases k.path with
  | some p => exact ofDotted_append h
  | none => exact ofDotted_of_not_mem h

/-- The key is normalized and its name has no dot, so that it is read from its text. -/
structure IsReadable (k : TypeKey) : Prop where
  /-- The key is normalized. -/
  normalized : k.normalized = k
  /-- The name has no dot. -/
  dotless : '.' ∉ k.name.toList

theorem toString_eq_iff (h₁ : '.' ∉ k₁.name.toList) (h₂ : '.' ∉ k₂.name.toList) :
    toString k₁ = toString k₂ ↔ k₁.normalized = k₂.normalized := by
  constructor
  · intro h
    rw [← ofDotted_toString h₁, h, ofDotted_toString h₂]
  · intro h
    rw [← toString_normalized k₁, h, toString_normalized]

end TypeKey

/-- The source text of a fragment depends on its key up to normalization. -/
theorem EmitSettings.source_normalized (s : EmitSettings) (k : TypeKey) (kind : TypeKind)
    (members : List RenderedMember) :
    s.source k.normalized kind members = s.source k kind members := by
  unfold source typeLines
  rw [TypeKey.path_normalized, TypeKey.name_normalized]

/-- Fragments have the same name exactly if their keys have the same text. -/
theorem EmitSettings.hintName_eq_iff_toString_eq (s : EmitSettings) {k₁ k₂ : TypeKey} :
    s.hintName k₁ = s.hintName k₂ ↔ toString k₁ = toString k₂ := by
  unfold hintName
  rw [String.append_left_inj, String.append_left_inj]

/-! ### The types of a ledger -/

namespace Session

variable {m : Type → Type} [Monad m] [LawfulMonad m] {resolver : Resolver m}
  {P : TypeKey → Prop} {s t : Session}

/-- The ledger lists types that satisfy `P`, each of them once. -/
structure ListsOnly (P : TypeKey → Prop) (s : Session) : Prop where
  /-- No type is listed twice. -/
  nodup : s.ledger.keys.Nodup
  /-- Every type that is listed satisfies `P`. -/
  keys : ∀ key ∈ s.ledger.keys, P key

theorem listsOnly_empty : ListsOnly P {} where
  nodup := List.nodup_nil
  keys := by simp [Ledger.keys]

theorem ListsOnly.congr (h : ListsOnly P s) (hledger : t.ledger = s.ledger) : ListsOnly P t where
  nodup := hledger ▸ h.nodup
  keys := hledger ▸ h.keys

theorem ListsOnly.insert (h : ListsOnly P s) {key : TypeKey} {e : Entry} (hkey : P key)
    (hledger : t.ledger = s.ledger.insert key e) : ListsOnly P t where
  nodup := by
    rw [hledger]
    exact Ledger.nodup_keys_insert h.nodup key e
  keys := by
    rw [hledger, Ledger.keys_insert]
    intro k hk
    by_cases hmem : key ∈ s.ledger.keys
    · rw [if_pos hmem] at hk
      exact h.keys k hk
    · rw [if_neg hmem, List.mem_append, List.mem_singleton] at hk
      rcases hk with hk | rfl
      · exact h.keys k hk
      · exact hkey

theorem ListsOnly.collect (h : ListsOnly P s) (site : Site) {type : ResolvedType}
    (htype : P type.key.normalized) (marker : Attribute × Marker) :
    Ensures (ListsOnly P) (s.collect resolver site type marker) := by
  rcases collect_cases s site type marker with ⟨d, hreport⟩ | haccept
  · rw [hreport]
    exact .pure (h.congr rfl)
  · rw [haccept, accept_eq_bind]
    refine (Ensures.trivially _).bind fun e _ => ?_
    exact .pure (h.insert htype (ledger_settle ..))

theorem ListsOnly.visit (h : ListsOnly P s) {d : Declaration}
    (hd : d.IsMarked → Ensures (fun r => ∀ type, r = .ok type → P type.key.normalized)
      (resolver.resolve d)) :
    Ensures (fun r => ListsOnly P r.1) (s.visit resolver d) := by
  have hcount : ListsOnly P { s with visited := s.visited + 1 } := h.congr rfl
  unfold Session.visit
  by_cases hempty : d.site.markers = []
  · simp only [hempty, List.isEmpty_nil, if_true]
    exact .pure hcount
  have hsome : d.site.markers.isEmpty = false := by simpa using hempty
  simp only [hsome]
  refine (hd (Site.markers_ne_nil_iff.mp hempty)).bind ?_
  rintro (failure | type) htype
  · exact .pure hcount
  · refine Ensures.bind (p := ListsOnly P) (.foldlM hcount ?_) fun t ht => .pure ht
    intro t ht marker _
    exact ht.collect d.site (htype type rfl) marker

/-- After visits, the ledger lists types that the host gave for marked declarations, in normalized
form. -/
theorem ListsOnly.visitAll (h : ListsOnly P s) {ds : List Declaration}
    (hds : ∀ d ∈ ds, d.IsMarked →
      Ensures (fun r => ∀ type, r = .ok type → P type.key.normalized) (resolver.resolve d)) :
    Ensures (fun r => ∀ t, r = .ok t → ListsOnly P t) (s.visitAll resolver ds) := by
  induction ds generalizing s with
  | nil =>
    refine .pure ?_
    rintro t ⟨⟩
    exact h
  | cons d ds ih =>
    rw [List.forall_mem_cons] at hds
    rw [Session.visitAll]
    refine (h.visit hds.1).bind ?_
    rintro ⟨t, _ | error⟩ ht
    · exact ih ht hds.2
    · refine .pure ?_
      rintro u ⟨⟩

/-- The same holds if visits that fail are passed over. -/
theorem ListsOnly.visits (h : ListsOnly P s) {ds : List Declaration}
    (hds : ∀ d ∈ ds, d.IsMarked →
      Ensures (fun r => ∀ type, r = .ok type → P type.key.normalized) (resolver.resolve d)) :
    Ensures (fun r => ListsOnly P r.1) (s.visits resolver ds) := by
  induction ds generalizing s with
  | nil => exact .pure h
  | cons d ds ih =>
    rw [List.forall_mem_cons] at hds
    rw [Session.visits]
    refine (h.visit hds.1).bind ?_
    rintro ⟨t, error⟩ ht
    refine (ih ht hds.2).bind ?_
    rintro ⟨u, errors⟩ hu
    exact .pure hu

/-- If no type of the ledger has a dot in its name, the fragments have different names. -/
theorem ListsOnly.nodup_hintNames (settings : Settings) (render : Renderer)
    (h : ListsOnly TypeKey.IsReadable s) :
    (s.finish settings render).hintNames.Nodup := by
  have hnames : (s.finish settings render).hintNames =
      s.ledger.keys.map settings.emit.hintName := by
    simp [finish, Output.hintNames, Ledger.keys, Fragment.ofMembers]
  rw [hnames]
  -- It is enough that the names of fragments tell the types of the ledger apart.
  refine List.Nodup.map_on ?_ h.nodup
  intro k₁ hk₁ k₂ hk₂ heq
  have h₁ := h.keys k₁ hk₁
  have h₂ := h.keys k₂ hk₂
  rw [← h₁.normalized, ← h₂.normalized]
  exact (TypeKey.toString_eq_iff h₁.dotless h₂.dotless).mp
    ((EmitSettings.hintName_eq_iff_toString_eq _).mp heq)

end Session

namespace TypeKey

/-- For every suffix, two keys of types whose names have no dot have the same fragment name exactly
if they are equal after normalization, and so it is with their texts. The source text of a fragment
is that of the normalized key. Both ways of trimming a namespace agree: leaving out what is blank
after trimming, and keeping the path as it is if trimming takes away no bytes.

So whatever the host does, if it gives no type with a dot in its name for a marked declaration, the
fragments of an output have different names, be it the output of a forest or of any visits, of
which some may fail. -/
theorem hintName_eq_iff_normalized_eq (settings : Settings) :
    (∀ k₁ k₂ : TypeKey, '.' ∉ k₁.name.toList → '.' ∉ k₂.name.toList →
      (settings.emit.hintName k₁ = settings.emit.hintName k₂ ↔ k₁.normalized = k₂.normalized) ∧
      (toString k₁ = toString k₂ ↔ k₁.normalized = k₂.normalized)) ∧
    (∀ (k : TypeKey) (kind : TypeKind) (members : List RenderedMember),
      settings.emit.source k kind members = settings.emit.source k.normalized kind members) ∧
    (∀ (k : TypeKey),
      k.path = (k.scope.map Text.trim).filter (· ≠ "") ∧
      k.normalized.scope = k.scope.bind fun s =>
        if Text.trim s = "" then none
        else if (Text.trim s).utf8ByteSize = s.utf8ByteSize then some s
        else some (Text.trim s)) ∧
    ∀ {m : Type → Type} [Monad m] [LawfulMonad m] (resolver : Resolver m) (render : Renderer)
      (ds : List Declaration),
      (∀ d ∈ ds, d.IsMarked →
        Ensures (fun r => ∀ type, r = .ok type → '.' ∉ type.key.name.toList)
          (resolver.resolve d)) →
      Ensures (fun r => (r.1.finish settings render).hintNames.Nodup)
        (Session.visits resolver {} ds) ∧
      ∀ f : Forest, f.subtrees = ds →
        Ensures (fun r => ∀ o : Output, r = .ok o → o.hintNames.Nodup)
          (f.generateWith resolver settings render) := by
  refine ⟨fun k₁ k₂ h₁ h₂ => ?_, fun k kind members => ?_, fun k => ⟨?_, ?_⟩, ?_⟩
  · exact ⟨(settings.emit.hintName_eq_iff_toString_eq).trans (toString_eq_iff h₁ h₂),
      toString_eq_iff h₁ h₂⟩
  · exact (settings.emit.source_normalized k kind members).symm
  · exact normalizeScope_eq_filter k.scope
  · exact normalizeScope_eq_bind k.scope
  · intro m _ _ resolver render ds hnames
    -- The key that is used is normalized and has the name that the host gave.
    have hds : ∀ d ∈ ds, d.IsMarked →
        Ensures (fun r => ∀ type, r = .ok type → IsReadable type.key.normalized)
          (resolver.resolve d) := by
      intro d hd hmarked
      refine (hnames d hd hmarked).imp fun r hr type htype => ?_
      exact ⟨normalized_normalized _, hr type htype⟩
    constructor
    · refine (Session.listsOnly_empty.visits hds).imp ?_
      intro r hr
      exact hr.nodup_hintNames settings render
    · rintro f rfl
      unfold Forest.generateWith
      refine (Session.listsOnly_empty.visitAll hds).bind ?_
      rintro (error | s) hs
      · refine .pure ?_
        rintro o ⟨⟩
      · refine .pure ?_
        rintro o ⟨⟩
        exact (hs s rfl).nodup_hintNames settings render

/-- Namespaces with dots and with blanks around them, among them a narrow space that takes three
bytes, and a suffix that starts with a dot. A host that does not normalize gives three types with
the parts `A`, `B` and `C` in their texts; their fragments have different names. -/
theorem hintName_eq_iff_normalized_eq_dotted :
    let settings : Settings := { emit := { hintSuffix := ".g" } }
    let raw : TypeKey := { name := "C", scope := some "\u202fA.B\t" }
    let trimmed : TypeKey := { name := "C", scope := some "A.B" }
    let other : TypeKey := { name := "B", scope := some "A" }
    let site (name scope : String) : Site :=
      { name, scope := some scope, isPartial := true, attributes := [.ofTexts "M" "big" "x"] }
    let f : Forest := { units := [{ path := "a.cs", declarations :=
      [.mk (site "C" "A.B") [], .mk (site "C" " ") [], .mk (site "B" "A") []] }] }
    let resolver : Resolver (StateM Nat) :=
      { resolve := fun d => do
          modify (· + 1)
          return .ok { key := { name := d.site.name, scope := d.site.scope.map (" " ++ ·) } }
        existingMembers := fun _ => return [] }
    ('.' ∉ raw.name.toList ∧ '.' ∉ trimmed.name.toList ∧ '.' ∉ other.name.toList) ∧
    settings.emit.hintName raw = settings.emit.hintName trimmed ∧
    settings.emit.hintName raw ≠ settings.emit.hintName other ∧
    (∀ kind members,
      settings.emit.source raw kind members = settings.emit.source trimmed kind members) ∧
    ∃ o, (f.generateWith resolver settings fun _ text => some text).run 0 = (.ok o, 3) ∧
      o.hintNames = ["A.B.C..g", "C..g", "A.B..g"] ∧ o.hintNames.Nodup := by
  intro settings raw trimmed other site f resolver
  have hdots : '.' ∉ raw.name.toList ∧ '.' ∉ trimmed.name.toList ∧ '.' ∉ other.name.toList := by
    decide
  obtain ⟨hnames, hsource, -, hrun⟩ := hintName_eq_iff_normalized_eq settings
  have hnormalized : raw.normalized = trimmed.normalized ∧ raw.normalized ≠ other.normalized := by
    decide +kernel
  have hdotless : ∀ d ∈ f.subtrees, '.' ∉ d.site.name.toList := by decide +kernel
  have hds : ∀ d ∈ f.subtrees, d.IsMarked →
      Ensures (fun r => ∀ type, r = .ok type → '.' ∉ type.key.name.toList)
        (resolver.resolve d) := by
    intro d hd _
    refine ensures_state_iff.mpr fun count type htype => ?_
    obtain rfl : { key := { name := d.site.name, scope := d.site.scope.map (" " ++ ·) } } = type :=
      Except.ok.inj htype
    exact hdotless d hd
  have hnodup := ensures_state_iff.mp
    ((hrun resolver (fun _ text => some text) f.subtrees hds).2 f rfl) 0
  have hresult : ((f.generateWith resolver settings fun _ text => some text).run 0).2 = 3 ∧
      ((f.generateWith resolver settings fun _ text => some text).run 0).1.map Output.hintNames =
        .ok ["A.B.C..g", "C..g", "A.B..g"] := by
    decide +kernel
  refine ⟨hdots, ((hnames raw trimmed hdots.1 hdots.2.1).1).mpr hnormalized.1, ?_, ?_, ?_⟩
  · exact mt ((hnames raw other hdots.1 hdots.2.2).1).mp hnormalized.2
  · intro kind members
    calc
      settings.emit.source raw kind members = settings.emit.source raw.normalized kind members :=
        hsource raw kind members
      _ = settings.emit.source trimmed.normalized kind members :=
        congrArg (settings.emit.source · kind members) hnormalized.1
      _ = settings.emit.source trimmed kind members := (hsource trimmed kind members).symm
  · generalize (f.generateWith resolver settings fun _ text => some text).run 0 = result
      at hresult hnodup ⊢
    obtain ⟨error | o, count⟩ := result
    · cases hresult.2
    · obtain ⟨rfl, heq⟩ := hresult
      exact ⟨o, rfl, Except.ok.inj heq, hnodup o rfl⟩

end TypeKey

end BannerGen
