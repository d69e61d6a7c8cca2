import BannerGen.Generator
import BannerGen.Proofs.Json.Record
import BannerGen.Proofs.Json.Text
import BannerGen.Proofs.Layout
import BannerGen.Proofs.TypeKey
import Mathlib.Tactic.Tauto

/-!
# Forests as text

A forest that was read from a text can be written and read again. What a reader fills in or changes
is settled the first time: sites have identities, parts have locations, and paths of namespaces are
normalized (`Declaration.isNormalized_of_ofJson?`), so reading the written forest changes nothing
more. It can only be refused, for one of two reasons. Locations that are filled in need not be
below `2 ^ 64`. And the written text spells out what the first text may have left out, so it can be
deeper than the first text was, and too deep to be read (`Forest.ofText_pretty_of_ofText`).
-/

namespace BannerGen

open Json Json.Value

/-! ### What fits into the text of a forest -/

/-- The numbers of the span are below `2 ^ 64`. -/
def Span.Fits (s : Span) : Prop :=
  s.start < 2 ^ 64 ∧ s.stop < 2 ^ 64 ∧ s.line < 2 ^ 64 ∧ s.column < 2 ^ 64

instance (s : Span) : Decidable s.Fits := inferInstanceAs (Decidable (_ ∧ _))

namespace Site

/-- The path of the namespace is normalized. -/
def IsNormalized (s : Site) : Prop := normalizeScope s.scope = s.scope

/-- The numbers of the site are in the ranges that are read. -/
def Fits (s : Site) : Prop := s.id < 2 ^ 32 ∧ ∀ span ∈ s.spans, span.Fits

theorem fits_iff (s : Site) :
    s.Fits ↔ s.id < 2 ^ 32 ∧ s.span.Fits ∧ (∀ a ∈ s.attributes, ∀ span ∈ a.spans, span.Fits) ∧
      ∀ m ∈ s.members, m.span.Fits := by
  rw [Fits, spans, List.forall_mem_cons, List.forall_mem_append, List.forall_mem_flatMap,
    List.forall_mem_map]

end Site

/-! ### Reading back the parts of a declaration -/

theorem Span.readsBack (s : Span) : ReadsBack ofJson? toJson s s.Fits := by
  intro room b
  cases room with
  | zero => simp [ofJson?, toJson]
  | succ room =>
    rw [ofJson?, toJson, fields?_record _ (by simp)]
    simp [Fields.optional, List.lookup_cons, Option.bind_eq_some_iff, Fits]
    tauto

theorem TypeKind.readsBack (k : TypeKind) : ReadsBack ofJson? toJson k True := by
  intro room b
  cases room <;> cases k <;>
    simp [ofJson?, toJson, asChoice?, asName?, choices, label, keyword, List.lookup_cons]

theorem ArgumentValue.readsBack (v : ArgumentValue) : ReadsBack ofJson? toJson v True := by
  intro room b
  cases room with
  | zero => cases v <;> simp [ofJson?, toJson]
  | succ room =>
    -- The kind is written as a name, which is read with any room that is left.
    have hread : ofJson? (room + 1) v.toJson = some v := by
      cases v with
      | text content =>
        have hkind : asChoice? choices room (.text "text") = some .text := by
          cases room <;> rfl
        rw [toJson, ofJson?, fields?_record _ (by simp)]
        · simp [Fields.required, List.lookup_cons, hkind]
        · simp [record]
      | expression source =>
        have hkind : asChoice? choices room (.text "expression") = some .expression := by
          cases room <;> rfl
        rw [toJson, ofJson?, fields?_record _ (by simp)]
        · simp [Fields.required, List.lookup_cons, hkind]
        · simp [record]
    rw [hread]
    cases v <;> simp [toJson]

theorem Argument.readsBack (a : Argument) : ReadsBack ofJson? toJson a a.span.Fits := by
  intro room b
  cases room with
  | zero => simp [ofJson?, toJson]
  | succ room =>
    rw [ofJson?, toJson, fields?_record _ (by simp)]
    simp [Fields.optional, Fields.required, List.lookup_cons, Option.bind_eq_some_iff,
      a.value.readsBack room, a.span.readsBack room]
    tauto

theorem Attribute.readsBack (a : Attribute) :
    ReadsBack ofJson? toJson a (∀ span ∈ a.spans, span.Fits) := by
  intro room b
  cases room with
  | zero => simp [ofJson?, toJson]
  | succ room =>
    rw [ofJson?, toJson, fields?_record _ (by simp)]
    simp [Fields.optional, Fields.required, List.lookup_cons, Option.bind_eq_some_iff, spans,
      asList?_map_eq_some_iff fun x _ => Argument.readsBack x, a.span.readsBack room]
    tauto

theorem Member.readsBack (m : Member) : ReadsBack ofJson? toJson m m.span.Fits := by
  intro room b
  cases room with
  | zero => simp [ofJson?, toJson]
  | succ room =>
    rw [ofJson?, toJson, fields?_record _ (by simp)]
    simp [Fields.optional, Fields.required, List.lookup_cons, Option.bind_eq_some_iff,
      m.span.readsBack room]
    tauto

@[simp]
theorem TypeKey.scopeOfJson?_ofText? (scope : Option String) :
    scopeOfJson? (ofText? scope) = some (normalizeScope scope) := by
  rw [scopeOfJson?, asOptionalText?_ofText?, Option.map_some]

/-! ### Declarations -/

namespace Declaration

theorem toJsonAll_eq_map (ds : List Declaration) : toJsonAll ds = ds.map toJson := by
  induction ds with
  | nil => rfl
  | cons d ds ih => rw [toJsonAll, ih, List.map_cons]

theorem ofJsonAll?_eq_asList? : ofJsonAll? = asList? ofJson? := by
  funext room v
  cases room <;> cases v <;> simp only [ofJsonAll?, asList?]

mutual

/-- A declaration is read back if the paths of its namespaces are normalized. -/
theorem readsBack : ∀ d, (∀ s ∈ d.walk, s.IsNormalized) →
    ReadsBack ofJson? toJson d (∀ s ∈ d.walk, s.Fits)
  | .mk s nested, hscope => by
    rw [walk, List.forall_mem_cons, Site.IsNormalized] at hscope
    have hnested := readsBackAll nested hscope.2
    have hfits : (∀ t ∈ walk (.mk s nested), t.Fits) ↔
        s.Fits ∧ ∀ d ∈ nested, ∀ t ∈ d.walk, t.Fits := by
      rw [walk, walkAll_eq_flatMap, List.forall_mem_cons, List.forall_mem_flatMap]
    intro room b
    cases room with
    | zero => simp [ofJson?, toJson]
    | succ room =>
      rw [ofJson?, toJson, fields?_record _ (by simp)]
      -- Every field that is read is there, so no default is used.
      change (do
        let id ← asNat? 32 (natural s.id)
        let name ← asText? (text s.name)
        let kind ← TypeKind.ofJson? room s.kind.toJson
        let scope ← TypeKey.scopeOfJson? (ofText? s.scope)
        let isPartial ← asBool? (.bool s.isPartial)
        let attributes ← asList? Attribute.ofJson? room (.array (s.attributes.map Attribute.toJson))
        let members ← asList? Member.ofJson? room (.array (s.members.map Member.toJson))
        let nested ← ofJsonAll? room (.array (toJsonAll nested))
        let span ← Span.ofJson? room s.span.toJson
        return mk { id, name, kind, scope, isPartial, attributes, members, span } nested) = _ ↔ _
      simp [Option.bind_eq_some_iff, toJsonAll_eq_map, ofJsonAll?_eq_asList?, hscope.1,
        s.kind.readsBack room, asList?_map_eq_some_iff fun a _ => Attribute.readsBack a,
        asList?_map_eq_some_iff fun m _ => Member.readsBack m, asList?_map_eq_some_iff hnested,
        s.span.readsBack room, hfits, s.fits_iff]
      tauto

theorem readsBackAll : ∀ ds, (∀ s ∈ walkAll ds, s.IsNormalized) →
    ∀ d ∈ ds, ReadsBack ofJson? toJson d (∀ s ∈ d.walk, s.Fits)
  | [], _ => by simp
  | d :: ds, hscope => by
    rw [walkAll, List.forall_mem_append] at hscope
    exact List.forall_mem_cons.mpr ⟨readsBack d hscope.1, readsBackAll ds hscope.2⟩

end

mutual

/-- What is read has identities below `2 ^ 32` and normalized paths of namespaces. -/
theorem isNormalized_of_ofJson? : ∀ room v d, ofJson? room v = some d →
    ∀ s ∈ d.walk, s.id < 2 ^ 32 ∧ s.IsNormalized
  | 0, v, d, h => by simp [ofJson?] at h
  | room + 1, v, d, h => by
    simp only [ofJson?, Option.bind_eq_bind, Option.bind_eq_some_iff, Option.pure_def,
      Option.some.injEq] at h
    obtain ⟨f, _, id, hid, name, _, kind, _, scope, hscope, isPartial, _, attributes, _, members, _,
      nested, hnested, span, _, rfl⟩ := h
    rw [walk, List.forall_mem_cons]
    refine ⟨⟨?_, ?_⟩, ?_⟩
    · rcases Fields.optional_eq_some_iff.mp hid with ⟨_, rfl⟩ | ⟨w, _, hw⟩
      · exact Nat.two_pow_pos 32
      · exact lt_of_asNat?_eq_some hw
    · rcases Fields.optional_eq_some_iff.mp hscope with ⟨_, rfl⟩ | ⟨w, _, hw⟩
      · rfl
      · -- The path was normalized when it was read.
        obtain ⟨given, _, rfl⟩ := Option.map_eq_some_iff.mp hw
        exact normalizeScope_normalizeScope given
    · rcases Fields.optional_eq_some_iff.mp hnested with ⟨_, rfl⟩ | ⟨w, _, hw⟩
      · simp [walkAll]
      · exact isNormalized_of_ofJsonAll? room w nested hw

theorem isNormalized_of_ofJsonAll? : ∀ room v ds, ofJsonAll? room v = some ds →
    ∀ s ∈ walkAll ds, s.id < 2 ^ 32 ∧ s.IsNormalized
  | room + 1, .array items, ds, h => by
    rw [ofJsonAll?] at h
    rw [walkAll_eq_flatMap, List.forall_mem_flatMap]
    intro d hd
    obtain ⟨v, hv⟩ := exists_of_mem_mapM h d hd
    exact isNormalized_of_ofJson? room v d hv
  | 0, v, ds, h => by simp [ofJsonAll?] at h

end

end Declaration

/-! ### Units and forests -/

namespace SourceUnit

theorem readsBack (u : SourceUnit)
    (hscope : ∀ s ∈ Declaration.walkAll u.declarations, s.IsNormalized) :
    ReadsBack ofJson? toJson u (∀ s ∈ Declaration.walkAll u.declarations, s.Fits) := by
  intro room b
  cases room with
  | zero => simp [ofJson?, toJson]
  | succ room =>
    rw [ofJson?, toJson, fields?_record _ (by simp), Declaration.walkAll_eq_flatMap,
      List.forall_mem_flatMap]
    simp [Fields.optional, Fields.required, List.lookup_cons, Option.bind_eq_some_iff,
      Declaration.toJsonAll_eq_map,
      asList?_map_eq_some_iff (Declaration.readsBackAll u.declarations hscope)]
    tauto

theorem isNormalized_of_ofJson? {room : Nat} {v : Value} {u : SourceUnit}
    (h : ofJson? room v = some u) :
    ∀ s ∈ Declaration.walkAll u.declarations, s.id < 2 ^ 32 ∧ s.IsNormalized := by
  cases room with
  | zero => simp [ofJson?] at h
  | succ room =>
    simp only [ofJson?, Option.bind_eq_bind, Option.bind_eq_some_iff, Option.pure_def,
      Option.some.injEq] at h
    obtain ⟨f, _, path, _, ds, hds, rfl⟩ := h
    rcases Fields.optional_eq_some_iff.mp hds with ⟨_, rfl⟩ | ⟨w, _, hw⟩
    · simp [Declaration.walkAll]
    · rw [← Declaration.ofJsonAll?_eq_asList?] at hw
      exact Declaration.isNormalized_of_ofJsonAll? room w ds hw

end SourceUnit

namespace Forest

variable {e f : Forest}

theorem readsBack (f : Forest) (hscope : ∀ s ∈ f.walk, s.IsNormalized) :
    ReadsBack ofJson? toJson f (∀ s ∈ f.walk, s.Fits) := by
  intro room b
  rw [walk_eq_flatMap, List.forall_mem_flatMap] at hscope ⊢
  cases room with
  | zero => simp [ofJson?, toJson]
  | succ room =>
    rw [ofJson?, toJson, fields?_record _ (by simp)]
    simp [Fields.required, List.lookup_cons, Option.bind_eq_some_iff,
      asList?_map_eq_some_iff fun u hu => SourceUnit.readsBack u (hscope u hu)]
    tauto

theorem isNormalized_of_ofJson? {room : Nat} {v : Value} (h : ofJson? room v = some f) :
    ∀ s ∈ f.walk, s.id < 2 ^ 32 ∧ s.IsNormalized := by
  cases room with
  | zero => simp [ofJson?] at h
  | succ room =>
    simp only [ofJson?, Option.bind_eq_bind, Option.bind_eq_some_iff, Option.pure_def,
      Option.some.injEq, Fields.required] at h
    obtain ⟨fields, _, us, ⟨w, _, hw⟩, rfl⟩ := h
    rw [walk_eq_flatMap, List.forall_mem_flatMap]
    intro u hu
    obtain ⟨room, v, hv⟩ := exists_of_mem_asList? hw u hu
    exact SourceUnit.isNormalized_of_ofJson? hv

/-- The layout keeps identities in their range, and it keeps paths of namespaces. -/
theorem isNormalized_of_layout (h : e.layout = some f)
    (he : ∀ s ∈ e.walk, s.id < 2 ^ 32 ∧ s.IsNormalized) :
    ∀ s ∈ f.walk, s.id < 2 ^ 32 ∧ s.IsNormalized := by
  intro s hs
  constructor
  · -- The identity was there before, or it was handed out.
    obtain ⟨fresh, hfills⟩ := fills_ids h
    have hmem : s.id ∈ f.ids := List.mem_map_of_mem hs
    rw [hfills.perm.mem_iff, List.mem_append] at hmem
    rcases hmem with hkept | hnew
    · obtain ⟨t, ht, hid⟩ := List.mem_map.mp (List.mem_of_mem_filter hkept)
      rw [← hid]
      exact (he t ht).1
    · have hlast := (hfills.free s.id hnew).2.2
      unfold SiteId.last at hlast
      omega
  · have hscopes : f.walk.map Site.scope = e.walk.map Site.scope :=
      map_walk_layout (fun _ _ => rfl) (fun _ _ _ => rfl) h
    have hmem : s.scope ∈ e.walk.map Site.scope := hscopes ▸ List.mem_map_of_mem hs
    obtain ⟨t, ht, hscope⟩ := List.mem_map.mp hmem
    unfold Site.IsNormalized
    rw [← hscope]
    exact (he t ht).2

/-- What an accepted text was read as. -/
theorem ofText_eq_ok_iff {s : String} :
    ofText s = .ok f ↔
      ∃ v e, parse? s = some v ∧ ofJson? Json.room v = some e ∧ e.layout = some f := by
  unfold ofText ofValue
  cases parse? s with
  | none => simp
  | some v =>
    cases hread : ofJson? Json.room v with
    | none => simp [hread]
    | some e => cases hlayout : e.layout <;> simp [hread, hlayout]

/-- A forest that was read from a text is written to a text that is read as the same forest, if the
written text nests no more containers than can be read and the locations are below `2 ^ 64`.
Otherwise the written text is refused; it is never read as another forest. -/
theorem ofText_pretty_of_ofText {s : String} (h : ofText s = .ok f) :
    ofText f.pretty =
      if f.toJson.depth ≤ Json.room ∧ ∀ span ∈ f.spans, span.Fits then .ok f
      else .error .malformed := by
  obtain ⟨v, e, _, hread, hlayout⟩ := ofText_eq_ok_iff.mp h
  have hsites := isNormalized_of_layout hlayout (isNormalized_of_ofJson? hread)
  -- Identities are in their range already, so only depth and locations can be in the way.
  have hback := readsBack f (fun s hs => (hsites s hs).2) Json.room
  have hfits : (∀ s ∈ f.walk, s.Fits) ↔ ∀ span ∈ f.spans, span.Fits := by
    rw [spans, List.forall_mem_flatMap]
    exact forall₂_congr fun s hs => and_iff_right (hsites s hs).1
  rw [hfits] at hback
  by_cases hc : f.toJson.depth ≤ Json.room ∧ ∀ span ∈ f.spans, span.Fits
  · -- What is read back is laid out already, and stays as it is when it is laid out again.
    rw [if_pos hc, ofText_eq_ok_iff]
    exact ⟨f.toJson, f, parse?_pretty _, (hback f).mpr ⟨rfl, hc⟩, layout_of_layout hlayout⟩
  · have hnone : ofJson? Json.room f.toJson = none := by
      rw [Option.eq_none_iff_forall_ne_some]
      intro b hb
      exact hc ((hback b).mp hb).2
    rw [if_neg hc, ofText, pretty, parse?_pretty]
    simp only [ofValue, hnone]

/-- Sixty declarations inside each other are read back. With one more, the text can still be read,
but the text that is written for it nests a container too many. -/
theorem ofText_pretty_of_ofText_nested :
    let first := record [("id", natural (2 ^ 32 - 1)), ("name", text "\"É\\\u0001"),
      ("namespace", text " a.b\t"),
      ("span", record [("file", text "é"), ("end", natural (2 ^ 64 - 1))])]
    let value (n : Nat) := record [("units", array [record [("path", text ""), ("declarations",
      array [first, (fun v => record [("name", text "A"), ("nested", array [v])])^[n]
        (record [("name", text "B")])])]])]
    (∃ f, ofText (value 60).pretty = .ok f ∧ ofText f.pretty = .ok f) ∧
      ∃ f, ofText (value 61).pretty = .ok f ∧ ofText f.pretty = .error .malformed := by
  intro first value
  have hread : ∀ n c, (ofValue (value n)).map
      (fun f => decide (f.toJson.depth ≤ Json.room ∧ ∀ span ∈ f.spans, span.Fits)) = .ok c →
        ∃ f, ofText (value n).pretty = .ok f ∧
          ofText f.pretty = if c then .ok f else .error .malformed := by
    intro n c hc
    cases h : ofValue (value n) with
    | error e =>
      rw [h] at hc
      cases hc
    | ok f =>
      have hf : ofText (value n).pretty = .ok f := by
        rw [ofText, parse?_pretty]
        exact h
      rw [h] at hc
      cases hc
      refine ⟨f, hf, ?_⟩
      simpa using ofText_pretty_of_ofText hf
  exact ⟨hread 60 true (by decide +kernel), hread 61 false (by decide +kernel)⟩

end Forest

end BannerGen
