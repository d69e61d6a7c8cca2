import BannerGen.Proofs.Filling
import BannerGen.Proofs.ForestText
import BannerGen.Proofs.Provenance

/-!
# Where diagnostics point to

A diagnostic is about a marker as a whole or about one of its arguments, and its kind tells which
(`DiagnosticKind.parameter?`). It points to the attribute or to the argument as they stand in the
forest, wherever the argument stands among the others (`Diagnostic.PointsTo`).

The layout of a forest leaves no part without a location if every unit has a path
(`Forest.IsLayoutOf.not_isUnassigned`). So a diagnostic about a forest that was read from a text
always points somewhere (`Forest.diagnostics_point_to_markers`).
-/

namespace BannerGen

open Json.Value

/-- The parameter whose argument a problem of this kind is about; `none` if the problem is about the
marker as a whole. -/
def DiagnosticKind.parameter? : DiagnosticKind → Option Parameter
  | .unknownFont => some .fontName
  | .invalidMemberName | .duplicateMemberName => some .memberName
  | .typeNotMergeable | .nestedTypeUnsupported => none

/-- The diagnostic points to the argument that is meant for the parameter, and names its text. -/
def Diagnostic.PointsToArgument (d : Diagnostic) (xs : List Argument) (p : Parameter) : Prop :=
  ∃ (i : Nat) (x : Argument) (content : String), xs[i]? = some x ∧ x.parameter? i = some p ∧
    x.value = .text content ∧ d.location = x.span ∧ d.arguments = [content]

/-- The diagnostic points to the attribute and names its site, or it points to the argument of the
attribute that it is about. -/
def Diagnostic.PointsTo (d : Diagnostic) (site : Site) (attr : Attribute) : Prop :=
  d.kind.parameter?.elim (d.location = attr.span ∧ d.arguments = [site.name])
    (d.PointsToArgument attr.arguments)

/-! ### What comes of a marker -/

/-- A diagnostic about a literal of a marker points to the argument that the literal comes from. -/
theorem Marker.Binds.pointsToArgument {xs : List Argument} {m : Marker} (h : Binds xs m)
    (kind : DiagnosticKind) (p : Parameter) :
    (Diagnostic.about kind (m.get p).span (m.get p).value).PointsToArgument xs p := by
  obtain ⟨i, x, hx, hp, hl⟩ := h p
  obtain ⟨hvalue, hspan⟩ := Argument.literal?_eq_some_iff.mp hl
  exact ⟨i, x, (m.get p).value, hx, hp, hvalue, hspan.symm, rfl⟩

/-- A diagnostic that comes of a marker points to its attribute or to one of its arguments. -/
theorem Occurrence.pointsTo_of_product {resolver : Resolver Id} {render : Renderer}
    {earlier : List Occurrence} {a : Occurrence} {d : Diagnostic}
    (hmarker : a.attr.recognize = .recognized a.marker)
    (h : a.product resolver render earlier = .report d) : d.PointsTo a.site a.attr := by
  obtain ⟨_, harguments⟩ := Attribute.recognize_eq_recognized_iff.mp hmarker
  obtain ⟨_, hbinds⟩ := Marker.ofArguments_eq_ok_iff.mp harguments
  rw [product] at h
  cases hd : a.rejection? resolver earlier with
  | some d' =>
    rw [hd] at h
    cases h
    rcases rejection?_eq_some_iff.mp hd with ⟨_, rfl⟩ | ⟨_, _, rfl⟩ | ⟨_, _, _, rfl⟩ | ⟨_, _, rfl⟩
    · exact ⟨rfl, rfl⟩
    · exact ⟨rfl, rfl⟩
    · exact hbinds.pointsToArgument .invalidMemberName .memberName
    · exact hbinds.pointsToArgument .duplicateMemberName .memberName
  | none =>
    -- The request was accepted, so what is reported is its font.
    rw [hd] at h
    simp only [Request.product, request, Request.ofMarker] at h
    cases hrender : render a.marker.fontName.value a.marker.sourceText.value with
    | some text => simp [hrender] at h
    | none =>
      simp only [hrender, Product.report.injEq] at h
      rw [← h]
      exact hbinds.pointsToArgument .unknownFont .fontName

/-- The diagnostics of an output are those that come of occurrences. -/
theorem Session.Reflects.mem_diagnostics_iff {resolver : Resolver Id} {as : List Occurrence}
    {s : Session} (h : Reflects resolver as s) (settings : Settings) (render : Renderer)
    {d : Diagnostic} :
    d ∈ (s.finish settings render).diagnostics ↔
      ∃ earlier a, (earlier, a) ∈ history as ∧ a.product resolver render earlier = .report d := by
  have hproducts : Product.report d ∈ (s.finish settings render).products ↔
      d ∈ (s.finish settings render).diagnostics := by
    simp [Output.products]
  rw [← hproducts, ← (h.products_perm settings render).mem_iff, products, List.mem_map]
  exact Prod.exists

/-! ### The markers of a forest -/

namespace Forest

variable {e f : Forest}

theorem mem_markers_iff {site : Site} {attr : Attribute} {m : Marker} :
    (site, attr, m) ∈ f.markers ↔
      site ∈ f.walk ∧ attr ∈ site.attributes ∧ attr.recognize = .recognized m := by
  simp [markers, Site.markers, Attribute.marker?_eq_some_iff]

/-- An occurrence in the history of a forest is a marker on one of its sites. -/
theorem mem_markers_of_mem_history {earlier : List Occurrence} {a : Occurrence}
    (h : (earlier, a) ∈ history f.occurrences) : (a.site, a.attr, a.marker) ∈ f.markers := by
  rw [← f.map_occurrences]
  exact List.mem_map.mpr ⟨a, mem_of_mem_history h, rfl⟩

/-- If a text is read as a forest whose units have paths, what generation reports points to known
locations. The diagnostics are those that come of the markers of the forest. Each of them points to
a marker: to its attribute if the diagnostic is about the site, and otherwise to the argument that
is meant for the parameter that the diagnostic is about, wherever this argument stands. The name
that the diagnostic gives is that of the site or the text of the argument. -/
theorem diagnostics_point_to_markers (settings : Settings) (render : Renderer) {text : String}
    (htext : ofText text = .ok f) (hpath : ∀ u ∈ f.units, u.path ≠ "") :
    ∃ output, f.generate settings render = .ok output ∧
      (∀ d, d ∈ output.diagnostics ↔ ∃ earlier a, (earlier, a) ∈ history f.occurrences ∧
        a.product f.resolver render earlier = .report d) ∧
      ∀ d ∈ output.diagnostics, d.location.file ≠ "" ∧
        ∃ site ∈ f.walk, ∃ attr ∈ site.attributes, (∃ m, attr.recognize = .recognized m) ∧
          d.PointsTo site attr := by
  have hmem := fun d => f.reflects_session.mem_diagnostics_iff settings render (d := d)
  refine ⟨_, generate_eq settings render f, hmem, ?_⟩
  intro d hd
  constructor
  · -- The location is that of a part of the forest, and the layout knows all of these.
    obtain ⟨_, e, _, _, hlayout⟩ := ofText_eq_ok_iff.mp htext
    have hlocated := ensures_id_iff.mp (f.ensures_normalized_and_located f.resolver settings render)
    have hspan := (hlocated _ (generate_eq settings render f)).2 d hd
    exact (isLayoutOf_of_layout hlayout).not_isUnassigned hpath _ hspan
  · obtain ⟨earlier, a, ha, hproduct⟩ := (hmem d).mp hd
    obtain ⟨hsite, hattr, hmarker⟩ := mem_markers_iff.mp (mem_markers_of_mem_history ha)
    exact ⟨a.site, hsite, a.attr, hattr, ⟨a.marker, hmarker⟩,
      Occurrence.pointsTo_of_product hmarker hproduct⟩

/-- Three markers on a partial site and one on a site that is not partial. The first has its
arguments by name in another order, and a location of its own for the name of the font; the others
have no locations. -/
theorem diagnostics_point_to_markers_mixed :
    let host := record [("file", text "host.cs"), ("start", natural 7), ("end", natural 9)]
    let arg (fields : List (String × Json.Value)) (content : String) :=
      record (("value", record [("kind", text "text"), ("value", text content)]) :: fields)
    let marker (arguments : List Json.Value) :=
      record [("name", text "GenerateFiggleText"), ("arguments", array arguments)]
    let plain (name : String) := marker [arg [] name, arg [] "big", arg [] "t"]
    let value := record [("units", array [record [("path", text "a.cs"), ("declarations", array [
      record [("name", text "A"), ("partial", bool true), ("attributes", array [
        marker [arg [("name", text "fontName"), ("span", host)] "big",
          arg [("name", text "sourceText")] "t", arg [("name", text "memberName")] "M"],
        plain "M", plain "1"])],
      record [("name", text "B"), ("attributes", array [plain "N"])]])]])]
    let render : Renderer := fun _ _ => none
    ∃ f output, ofText value.pretty = .ok f ∧ (∀ u ∈ f.units, u.path ≠ "") ∧
      f.generate {} render = .ok output ∧
      output.diagnostics.map (fun d => (d.kind, d.location.file, d.location.line, d.arguments)) =
        [(.duplicateMemberName, "a.cs", 2, ["M"]), (.invalidMemberName, "a.cs", 3, ["1"]),
          (.typeNotMergeable, "a.cs", 7, ["B"]), (.unknownFont, "host.cs", 0, ["big"])] ∧
      ∀ d ∈ output.diagnostics, ∃ site ∈ f.walk, ∃ attr ∈ site.attributes,
        d.PointsTo site attr := by
  intro host arg marker plain value render
  have hpaths : (ofValue value).map (fun f => f.units.map SourceUnit.path) = .ok ["a.cs"] := by
    decide +kernel
  have hreports : (ofValue value).toOption.bind (fun f => (f.generate {} render).toOption.map
      (·.diagnostics.map fun d => (d.kind, d.location.file, d.location.line, d.arguments))) =
        some [(.duplicateMemberName, "a.cs", 2, ["M"]), (.invalidMemberName, "a.cs", 3, ["1"]),
          (.typeNotMergeable, "a.cs", 7, ["B"]), (.unknownFont, "host.cs", 0, ["big"])] := by
    decide +kernel
  cases hvalue : ofValue value with
  | error e =>
    rw [hvalue] at hpaths
    cases hpaths
  | ok f =>
    have htext : ofText value.pretty = .ok f := by
      rw [ofText, parse?_pretty]
      exact hvalue
    have hpath : ∀ u ∈ f.units, u.path ≠ "" := by
      rw [hvalue] at hpaths
      have hunits : f.units.map SourceUnit.path = ["a.cs"] := Except.ok.inj hpaths
      intro u hu hempty
      have hmem := List.mem_map_of_mem (f := SourceUnit.path) hu
      simp [hunits, hempty] at hmem
    obtain ⟨output, houtput, _, hpoints⟩ := diagnostics_point_to_markers {} render htext hpath
    refine ⟨f, output, htext, hpath, houtput, ?_, ?_⟩
    · rw [hvalue] at hreports
      simpa [Except.toOption, houtput] using hreports
    · intro d hd
      obtain ⟨_, site, hsite, attr, hattr, _, hpoint⟩ := hpoints d hd
      exact ⟨site, hsite, attr, hattr, hpoint⟩

end Forest

end BannerGen
