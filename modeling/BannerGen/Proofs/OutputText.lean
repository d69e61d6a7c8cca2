import BannerGen.Proofs.ForestText
import BannerGen.Proofs.Provenance

/-!
# Outputs as text

An output is written to a text for a host, and the host reads it. Reading a key normalizes it, so
an output is read back only if its keys are normalized, and these are the outputs of runs. Unlike a
forest, an output has a fixed depth (`Output.depth_toJson_le`), so there is always room to read it.
-/

namespace BannerGen

open Json Json.Value

/-! ### Reading back the parts of an output -/

theorem TypeKey.readsBack (k : TypeKey) (h : k.normalized = k) :
    ReadsBack ofJson? toJson k True := by
  -- Reading normalizes the path, which changes nothing here.
  have hscope : normalizeScope k.scope = k.scope := congrArg TypeKey.scope h
  intro room b
  cases room with
  | zero => simp [ofJson?, toJson]
  | succ room =>
    rw [ofJson?, toJson, fields?_record _ (by simp)]
    simp [Fields.optional, Fields.required, List.lookup_cons, hscope]

theorem RenderedMember.readsBack (m : RenderedMember) : ReadsBack ofJson? toJson m True := by
  intro room b
  cases room with
  | zero => simp [ofJson?, toJson]
  | succ room =>
    rw [ofJson?, toJson, fields?_record _ (by simp)]
    simp [Fields.required, List.lookup_cons]

theorem Fragment.readsBack (f : Fragment) (h : f.key.normalized = f.key) :
    ReadsBack ofJson? toJson f True := by
  intro room b
  cases room with
  | zero => simp [ofJson?, toJson]
  | succ room =>
    rw [ofJson?, toJson, fields?_record _ (by simp)]
    simp [Fields.required, List.lookup_cons, Option.bind_eq_some_iff, f.key.readsBack h room,
      asList?_map_eq_some_iff fun m _ => RenderedMember.readsBack m]
    tauto

theorem DiagnosticKind.readsBack (k : DiagnosticKind) :
    ReadsBack ofJson? (fun k => .text k.label) k True := by
  intro room b
  cases room <;> cases k <;>
    simp [ofJson?, asChoice?, asName?, choices, all, label, List.lookup_cons]

theorem readsBack_text (s : String) : ReadsBack (fun _ v => v.asText?) Value.text s True := by
  intro room b
  simp

theorem Diagnostic.readsBack (d : Diagnostic) : ReadsBack ofJson? toJson d d.location.Fits := by
  intro room b
  cases room with
  | zero => simp [ofJson?, toJson]
  | succ room =>
    rw [ofJson?, toJson, fields?_record _ (by simp)]
    have hkind := d.kind.readsBack room
    simp [Fields.required, List.lookup_cons, Option.bind_eq_some_iff, hkind,
      d.location.readsBack room, asList?_map_eq_some_iff fun s _ => readsBack_text s]
    tauto

namespace Output

theorem readsBack (o : Output)
    (h : ∀ fragment ∈ o.fragments, fragment.key.normalized = fragment.key) :
    ReadsBack ofJson? toJson o (∀ d ∈ o.diagnostics, d.location.Fits) := by
  intro room b
  cases room with
  | zero => simp [ofJson?, toJson]
  | succ room =>
    rw [ofJson?, toJson, fields?_record _ (by simp)]
    simp [Fields.required, List.lookup_cons, Option.bind_eq_some_iff,
      asList?_map_eq_some_iff fun f hf => Fragment.readsBack f (h f hf),
      asList?_map_eq_some_iff fun d _ => Diagnostic.readsBack d]
    tauto

/-- An output nests five containers: fragments, and in them members. -/
theorem depth_toJson_le (o : Output) : o.toJson.depth ≤ 5 := by
  simp [toJson, Fragment.toJson, TypeKey.toJson, RenderedMember.toJson, Diagnostic.toJson,
    Span.toJson]

/-- An output is read back if its keys are normalized and its locations are below `2 ^ 64`. -/
theorem read?_pretty (o : Output)
    (hkeys : ∀ fragment ∈ o.fragments, fragment.key.normalized = fragment.key)
    (hfits : ∀ d ∈ o.diagnostics, d.location.Fits) :
    read? ofJson? o.pretty = some o := by
  have hroom : o.toJson.depth ≤ Json.room := o.depth_toJson_le.trans (by decide)
  rw [read?, pretty, parse?_pretty, Option.bind_some, o.readsBack hkeys Json.room]
  exact ⟨rfl, hroom, hfits⟩

end Output

namespace Forest

/-- Whatever the host answers, and whatever is rendered, the output of a run is written to a text
that is read as the same output, provided that the locations of the forest are below `2 ^ 64`. In
particular the keys of an output stay as they are when they are normalized. -/
theorem generateWith_output_reads_back {m : Type → Type} [Monad m] [LawfulMonad m]
    (resolver : Resolver m) (settings : Settings) (render : Renderer) (f : Forest)
    (hfits : ∀ span ∈ f.spans, span.Fits) :
    Ensures (fun r => ∀ o : Output, r = .ok o →
        read? Output.ofJson? o.pretty = some o ∧
          ∀ fragment ∈ o.fragments, fragment.key.normalized = fragment.key)
      (f.generateWith resolver settings render) := by
  refine (ensures_normalized_and_located resolver settings render f).imp ?_
  intro r hr o ho
  obtain ⟨hkeys, hlocated⟩ := hr o ho
  exact ⟨o.read?_pretty hkeys fun d hd => hfits _ (hlocated d hd), hkeys⟩

/-- A host that counts its answers and does not normalize them is asked about a type with a member
whose text has to be escaped, and with another member of the same name. -/
theorem generateWith_output_reads_back_raw :
    let location : Span := { file := "é", stop := 2 ^ 64 - 1 }
    let marker (content : String) : Attribute :=
      { name := Marker.simpleName
        arguments := ["M", "big", content].map fun s => { value := .text s, span := location } }
    let f : Forest := { units := [{ path := "a.cs", declarations := [.mk
      { name := "A", isPartial := true, attributes := [marker "\"\\\u0001é", marker ""] } []] }] }
    let resolver : Resolver (StateM Nat) :=
      { resolve := fun _ => do
          modify (· + 1)
          return .ok { key := { name := "A", scope := some " n\t" } }
        existingMembers := fun _ => return [] }
    let render : Renderer := fun _ content => some content
    (∀ span ∈ f.spans, span.Fits) ∧
      ∃ o, (f.generateWith resolver {} render).run 0 = (.ok o, 1) ∧
        o.fragments.map (fun fr => (fr.key, fr.members)) =
          [({ name := "A", scope := some "n" }, [{ name := "M", value := "\"\\\u0001é" }])] ∧
        o.diagnostics = [.about .duplicateMemberName location "M"] ∧
        read? Output.ofJson? o.pretty = some o := by
  intro location marker f resolver render
  have hfits : ∀ span ∈ f.spans, span.Fits := by decide
  have hrun : ((f.generateWith resolver {} render).run 0).2 = 1 ∧
      ((f.generateWith resolver {} render).run 0).1.map
        (fun o => (o.fragments.map (fun fr => (fr.key, fr.members)), o.diagnostics)) =
      .ok ([({ name := "A", scope := some "n" }, [{ name := "M", value := "\"\\\u0001é" }])],
        [.about .duplicateMemberName location "M"]) := by
    decide +kernel
  have hback := ensures_state_iff.mp
    (generateWith_output_reads_back resolver {} render f hfits) 0
  refine ⟨hfits, ?_⟩
  generalize (f.generateWith resolver {} render).run 0 = result at hrun hback ⊢
  obtain ⟨error | o, count⟩ := result
  · cases hrun.2
  · obtain ⟨rfl, heq⟩ := hrun
    obtain ⟨hfragments, hdiagnostics⟩ := Prod.mk.inj (Except.ok.inj heq)
    exact ⟨o, rfl, hfragments, hdiagnostics, (hback o rfl).1⟩

end Forest

end BannerGen
