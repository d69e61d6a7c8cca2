import BannerGen.Proofs.Distinct
import BannerGen.Session
import Mathlib.Data.List.Induction

/-!
# Occurrences and their outcomes

An `Occurrence` is a marker on a site whose type is known. Whether its request is accepted is
said here without a session: it depends on the occurrence, on the answers of the host, and on the
occurrences before it.

* `Occurrence.rejection?` — the diagnostic of an occurrence, or `none` if it is accepted.
* `rejections`, `accepted` — what a list of occurrences comes to, in order.
* `entryFor` — the entry that a list of occurrences leaves for a type.

An occurrence is *eligible* if only a clash of names can stop it. Eligible occurrences claim their
names whether or not they are accepted, so a clash can be told from the eligible occurrences alone
(`isTaken_entryOf`).
-/

namespace BannerGen

/-- A marker on a site of a known type. -/
structure Occurrence where
  /-- The site. -/
  site : Site
  /-- The type that the site belongs to. -/
  type : ResolvedType
  /-- The attribute that the marker is written as. -/
  attr : Attribute
  /-- The arguments of the marker. -/
  marker : Marker
deriving DecidableEq, Repr

namespace Occurrence

/-- A marker on a site of the given type. -/
def ofMarker (site : Site) (type : ResolvedType) (m : Attribute × Marker) : Occurrence :=
  { site, type, attr := m.1, marker := m.2 }

/-- The name of the member that is asked for. -/
def memberName (a : Occurrence) : String := a.marker.memberName.value

/-- The canonical form of the name of the member. -/
def canonicalName (a : Occurrence) : String := Identifier.canonical a.memberName

/-- The type that the member is asked for. -/
def key (a : Occurrence) : TypeKey := a.type.key.normalized

/-- What is asked for. -/
def request (a : Occurrence) : Request := .ofMarker a.attr.span a.marker

/-- Nothing but a clash of names can stop the occurrence. -/
def IsEligible (a : Occurrence) : Prop :=
  a.type.isNested = false ∧ a.site.isPartial = true ∧ Identifier.isValid a.memberName = true

instance : DecidablePred IsEligible := fun a =>
  inferInstanceAs (Decidable (a.type.isNested = false ∧ _ ∧ _))

/-- The occurrence is eligible and asks for a member of the type `key`. -/
def IsEligibleFor (a : Occurrence) (key : TypeKey) : Prop := a.IsEligible ∧ a.key = key

instance (a : Occurrence) (key : TypeKey) : Decidable (a.IsEligibleFor key) :=
  inferInstanceAs (Decidable (_ ∧ _))

/-- The type has a member of the occurrence's name, or an eligible occurrence before it asks for
one. -/
def Clashes (resolver : Resolver Id) (earlier : List Occurrence) (a : Occurrence) : Prop :=
  (∃ name ∈ (resolver.existingMembers a.key).run, Identifier.canonical name = a.canonicalName) ∨
    ∃ b ∈ earlier, b.IsEligibleFor a.key ∧ b.canonicalName = a.canonicalName

instance (resolver : Resolver Id) (earlier : List Occurrence) (a : Occurrence) :
    Decidable (a.Clashes resolver earlier) :=
  inferInstanceAs (Decidable (_ ∨ _))

/-- The diagnostic of an occurrence that comes after the `earlier` ones; `none` if it is
accepted. -/
def rejection? (resolver : Resolver Id) (earlier : List Occurrence) (a : Occurrence) :
    Option Diagnostic :=
  if a.type.isNested then some (.about .nestedTypeUnsupported a.attr.span a.site.name)
  else if !a.site.isPartial then some (.about .typeNotMergeable a.attr.span a.site.name)
  else if !Identifier.isValid a.memberName then
    some (.about .invalidMemberName a.marker.memberName.span a.memberName)
  else if a.Clashes resolver earlier then
    some (.about .duplicateMemberName a.marker.memberName.span a.memberName)
  else none

variable {resolver : Resolver Id} {earlier : List Occurrence} {a : Occurrence} {key : TypeKey}

/-- An eligible occurrence is rejected only for a clash. -/
theorem rejection?_of_isEligible (h : a.IsEligible) :
    a.rejection? resolver earlier =
      if a.Clashes resolver earlier then
        some (.about .duplicateMemberName a.marker.memberName.span a.memberName)
      else none := by
  obtain ⟨hnested, hpartial, hvalid⟩ := h
  simp [rejection?, hnested, hpartial, hvalid]

/-- The reasons for which an occurrence is rejected, the first that applies. -/
theorem rejection?_eq_some_iff {d : Diagnostic} :
    a.rejection? resolver earlier = some d ↔
      (a.type.isNested = true ∧ .about .nestedTypeUnsupported a.attr.span a.site.name = d) ∨
      (a.type.isNested = false ∧ a.site.isPartial = false ∧
        .about .typeNotMergeable a.attr.span a.site.name = d) ∨
      (a.type.isNested = false ∧ a.site.isPartial = true ∧
        Identifier.isValid a.memberName = false ∧
        .about .invalidMemberName a.marker.memberName.span a.memberName = d) ∨
      (a.IsEligible ∧ a.Clashes resolver earlier ∧
        .about .duplicateMemberName a.marker.memberName.span a.memberName = d) := by
  rw [rejection?, IsEligible]
  cases a.type.isNested with
  | true => simp
  | false =>
    cases a.site.isPartial with
    | false => simp
    | true =>
      cases Identifier.isValid a.memberName with
      | false => simp
      | true => by_cases hc : a.Clashes resolver earlier <;> simp [hc]

/-- An occurrence is accepted exactly if it is eligible and its name is free. -/
theorem rejection?_eq_none_iff :
    a.rejection? resolver earlier = none ↔ a.IsEligible ∧ ¬ a.Clashes resolver earlier := by
  by_cases h : a.IsEligible
  · rw [rejection?_of_isEligible h]
    by_cases hc : a.Clashes resolver earlier <;> simp [h, hc]
  · have hsome : (a.rejection? resolver earlier).isSome := by
      rw [rejection?]
      split
      · rfl
      split
      · rfl
      split
      · rfl
      next hnested hpartial hvalid =>
        exact absurd ⟨by simpa using hnested, by simpa using hpartial, by simpa using hvalid⟩ h
    rw [Option.isSome_iff_ne_none] at hsome
    simp [h, hsome]

end Occurrence

open Occurrence

/-! ### Outcomes in order -/

/-- The occurrences in order, each with those before it. -/
def history (as : List Occurrence) : List (List Occurrence × Occurrence) :=
  as.mapIdx fun i a => (as.take i, a)

/-- The diagnostics of the occurrences that are rejected, in order. -/
def rejections (resolver : Resolver Id) (as : List Occurrence) : List Diagnostic :=
  (history as).filterMap fun (earlier, a) => a.rejection? resolver earlier

/-- The occurrences that are accepted, in order. -/
def accepted (resolver : Resolver Id) (as : List Occurrence) : List Occurrence :=
  ((history as).filter fun (earlier, a) => a.rejection? resolver earlier = none).map Prod.snd

/-- The types that eligible occurrences ask for members of, in the order in which they first do. -/
def eligibleKeys (as : List Occurrence) : List TypeKey :=
  ((as.filter (·.IsEligible)).map Occurrence.key).eraseDups

/-- The occurrences that are eligible for a type, in order. -/
def eligibleFor (as : List Occurrence) (key : TypeKey) : List Occurrence :=
  as.filter (·.IsEligibleFor key)

/-- The occurrences accepted for a type, in order. -/
def acceptedFor (resolver : Resolver Id) (as : List Occurrence) (key : TypeKey) :
    List Occurrence :=
  (accepted resolver as).filter (·.IsEligibleFor key)

section Concat

variable (resolver : Resolver Id) (as : List Occurrence) (a : Occurrence)

@[simp]
theorem history_concat : history (as ++ [a]) = history as ++ [(as, a)] := by
  rw [history, List.mapIdx_concat]
  have hinit : as.mapIdx (fun i b => ((as ++ [a]).take i, b)) = history as := by
    refine List.ext_getElem (by simp [history]) fun i hi _ => ?_
    -- Below the length of `as`, the last occurrence is not among those taken.
    have hle : i ≤ as.length := by simp only [List.length_mapIdx] at hi; omega
    simp [history, List.take_append_of_le_length hle]
  rw [hinit]
  simp

/-- The diagnostic of one more occurrence comes last. -/
theorem rejections_concat :
    rejections resolver (as ++ [a]) =
      rejections resolver as ++ (a.rejection? resolver as).toList := by
  rw [rejections, history_concat, List.filterMap_append]
  cases h : a.rejection? resolver as <;> simp [rejections, h]

/-- One more occurrence comes last among the accepted ones, if it is accepted. -/
theorem accepted_concat :
    accepted resolver (as ++ [a]) =
      accepted resolver as ++ if a.rejection? resolver as = none then [a] else [] := by
  rw [accepted, history_concat, List.filter_append, List.map_append]
  by_cases h : a.rejection? resolver as = none <;> simp [accepted, h]

/-- The type of one more occurrence comes last, if it is eligible and the first for its type. -/
theorem eligibleKeys_concat :
    eligibleKeys (as ++ [a]) =
      if a.IsEligible ∧ a.key ∉ eligibleKeys as then eligibleKeys as ++ [a.key]
      else eligibleKeys as := by
  simp only [eligibleKeys, List.filter_append, List.map_append, List.mem_eraseDups]
  by_cases ha : a.IsEligible
  · have hlast : [a].filter (·.IsEligible) = [a] := by simp [ha]
    rw [hlast, List.map_singleton, eraseDups_concat]
    simp only [ha, true_and, ite_not]
  · simp [ha]

end Concat

/-- The types are those that an eligible occurrence asks for a member of. -/
theorem mem_eligibleKeys {as : List Occurrence} {key : TypeKey} :
    key ∈ eligibleKeys as ↔ ∃ a ∈ as, a.IsEligibleFor key := by
  simp only [eligibleKeys, List.mem_eraseDups, List.mem_map, List.mem_filter, decide_eq_true_eq,
    IsEligibleFor, and_assoc]

/-- No type is listed twice. -/
theorem nodup_eligibleKeys (as : List Occurrence) : (eligibleKeys as).Nodup :=
  nodup_eraseDups _

theorem map_snd_history (as : List Occurrence) : (history as).map Prod.snd = as := by
  refine List.ext_getElem (by simp [history]) fun i _ _ => ?_
  simp [history]

theorem mem_of_mem_history {as earlier : List Occurrence} {a : Occurrence}
    (h : (earlier, a) ∈ history as) : a ∈ as := by
  rw [← map_snd_history as]
  exact List.mem_map_of_mem (f := Prod.snd) h

/-- The accepted occurrences are among the occurrences, in the same order. -/
theorem accepted_sublist (resolver : Resolver Id) (as : List Occurrence) :
    (accepted resolver as).Sublist as := by
  calc
    (accepted resolver as).Sublist ((history as).map Prod.snd) := List.filter_sublist.map _
    _ = as := map_snd_history as

theorem acceptedFor_sublist (resolver : Resolver Id) (as : List Occurrence) (key : TypeKey) :
    (acceptedFor resolver as key).Sublist as :=
  List.filter_sublist.trans (accepted_sublist resolver as)

/-- An accepted occurrence is eligible, and its name is free among the members of its type. -/
theorem isEligible_of_mem_accepted {resolver : Resolver Id} {as : List Occurrence}
    {a : Occurrence} (h : a ∈ accepted resolver as) :
    a.IsEligible ∧ ∀ name ∈ (resolver.existingMembers a.key).run,
      Identifier.canonical name ≠ a.canonicalName := by
  obtain ⟨⟨earlier, b⟩, hb, rfl⟩ := List.mem_map.mp h
  have hnone := (List.mem_filter.mp hb).2
  rw [decide_eq_true_eq, rejection?_eq_none_iff] at hnone
  obtain ⟨heligible, hfree⟩ := hnone
  exact ⟨heligible, fun name hname heq => hfree (.inl ⟨name, hname, heq⟩)⟩

/-- The occurrences accepted for a type are the accepted ones that ask for a member of it. -/
theorem mem_acceptedFor {resolver : Resolver Id} {as : List Occurrence} {key : TypeKey}
    {a : Occurrence} :
    a ∈ acceptedFor resolver as key ↔ a ∈ accepted resolver as ∧ a.key = key := by
  rw [acceptedFor, List.mem_filter, decide_eq_true_eq, IsEligibleFor]
  refine and_congr_right fun h => and_iff_right ?_
  exact (isEligible_of_mem_accepted h).1

/-! ### The entry of a type -/

/-- The entry of a type of the given kind after the occurrences. -/
def entryOf (resolver : Resolver Id) (as : List Occurrence) (key : TypeKey) (kind : TypeKind) :
    Entry :=
  { kind
    requests := (acceptedFor resolver as key).map Occurrence.request
    taken := ((acceptedFor resolver as key).map Occurrence.canonicalName).reverse
      ++ (resolver.existingMembers key).run.map Identifier.canonical }

/-- The entry that the occurrences leave for a type. The first eligible one decides on its kind; a
type without eligible occurrences has no entry. -/
def entryFor (resolver : Resolver Id) (as : List Occurrence) (key : TypeKey) : Option Entry :=
  (eligibleFor as key).head?.map fun first => entryOf resolver as key first.site.kind

section Entry

variable (resolver : Resolver Id) (as : List Occurrence) {a : Occurrence} {key : TypeKey}

theorem eligibleFor_append (bs : List Occurrence) (key : TypeKey) :
    eligibleFor (as ++ bs) key = eligibleFor as key ++ eligibleFor bs key :=
  List.filter_append ..

theorem eligibleFor_concat (a : Occurrence) (key : TypeKey) :
    eligibleFor (as ++ [a]) key =
      eligibleFor as key ++ if a.IsEligibleFor key then [a] else [] := by
  rw [eligibleFor, List.filter_append]
  by_cases h : a.IsEligibleFor key <;> simp [eligibleFor, h]

theorem acceptedFor_concat_of_not_isEligibleFor (h : ¬ a.IsEligibleFor key) :
    acceptedFor resolver (as ++ [a]) key = acceptedFor resolver as key := by
  rw [acceptedFor, accepted_concat, List.filter_append]
  split <;> simp [acceptedFor, h]

theorem acceptedFor_concat_of_isEligible (h : a.IsEligible) :
    acceptedFor resolver (as ++ [a]) a.key =
      acceptedFor resolver as a.key ++ if a.Clashes resolver as then [] else [a] := by
  rw [acceptedFor, accepted_concat, List.filter_append, rejection?_of_isEligible h]
  have hfor : a.IsEligibleFor a.key := ⟨h, rfl⟩
  by_cases hc : a.Clashes resolver as <;> simp [acceptedFor, hc, hfor]

/-- The names that are taken for a type are those of its members and of the accepted
occurrences. -/
theorem isTaken_entryOf_iff_acceptedFor (key : TypeKey) (kind : TypeKind) (name : String) :
    (entryOf resolver as key kind).IsTaken name ↔
      (∃ n ∈ (resolver.existingMembers key).run,
        Identifier.canonical n = Identifier.canonical name) ∨
      ∃ b ∈ acceptedFor resolver as key, b.canonicalName = Identifier.canonical name := by
  simp only [Entry.IsTaken, entryOf, List.mem_append, List.mem_reverse, List.mem_map]
  exact or_comm

/-- The names that are taken for a type are those of its members and those that eligible
occurrences ask for. -/
theorem isTaken_entryOf (key : TypeKey) (kind : TypeKind) (name : String) :
    (entryOf resolver as key kind).IsTaken name ↔
      (∃ n ∈ (resolver.existingMembers key).run,
        Identifier.canonical n = Identifier.canonical name) ∨
      ∃ b ∈ as, b.IsEligibleFor key ∧ b.canonicalName = Identifier.canonical name := by
  rw [isTaken_entryOf_iff_acceptedFor]
  induction as using List.reverseRecOn with
  | nil => simp [acceptedFor, accepted, history]
  | append_singleton as a ih =>
    have hlast : (∃ b ∈ as ++ [a], b.IsEligibleFor key ∧
        b.canonicalName = Identifier.canonical name) ↔
          (∃ b ∈ as, b.IsEligibleFor key ∧ b.canonicalName = Identifier.canonical name) ∨
            a.IsEligibleFor key ∧ a.canonicalName = Identifier.canonical name := by
      simp only [List.mem_append, List.mem_singleton, or_and_right, exists_or, exists_eq_left]
    rw [hlast, ← or_assoc]
    by_cases ha : a.IsEligibleFor key
    · obtain ⟨heligible, rfl⟩ := ha
      rw [acceptedFor_concat_of_isEligible resolver as heligible]
      by_cases hc : a.Clashes resolver as
      · -- The occurrence is not accepted, but its name was taken before it.
        rw [if_pos hc, List.append_nil]
        refine ih.trans (or_iff_left_of_imp ?_).symm
        rintro ⟨_, heq⟩
        simpa only [Clashes, heq] using hc
      · rw [if_neg hc]
        have hself : a.IsEligibleFor a.key := ⟨heligible, rfl⟩
        simp only [List.mem_append, List.mem_singleton, or_and_right, exists_or, exists_eq_left,
          hself, true_and, ← or_assoc, ih]
    · rw [acceptedFor_concat_of_not_isEligibleFor resolver as ha]
      refine ih.trans (or_iff_left_of_imp ?_).symm
      exact fun h => absurd h.1 ha

/-- An occurrence clashes exactly if its name is taken in the entry of its type. -/
theorem isTaken_memberName_iff (kind : TypeKind) (a : Occurrence) :
    (entryOf resolver as a.key kind).IsTaken a.memberName ↔ a.Clashes resolver as :=
  isTaken_entryOf resolver as a.key kind a.memberName

/-- Claiming the name of an eligible occurrence leads from the entry before it to the entry after
it. -/
theorem accept_entryOf (kind : TypeKind) (h : a.IsEligible) :
    (entryOf resolver as a.key kind).accept a.request =
      (entryOf resolver (as ++ [a]) a.key kind,
        if a.Clashes resolver as then .duplicate else .accepted) := by
  have hname : a.request.memberName = a.memberName := rfl
  rw [Entry.accept, Entry.register, hname]
  simp only [isTaken_memberName_iff]
  by_cases hc : a.Clashes resolver as
  · simp [hc, entryOf, acceptedFor_concat_of_isEligible resolver as h]
  · simp [hc, entryOf, acceptedFor_concat_of_isEligible resolver as h, canonicalName]

/-- No two occurrences accepted for a type ask for the same name. -/
theorem nodup_canonicalName_acceptedFor (key : TypeKey) :
    ((acceptedFor resolver as key).map Occurrence.canonicalName).Nodup := by
  induction as using List.reverseRecOn with
  | nil => exact List.nodup_nil
  | append_singleton as a ih =>
    by_cases ha : a.IsEligibleFor key
    · obtain ⟨heligible, rfl⟩ := ha
      rw [acceptedFor_concat_of_isEligible resolver as heligible]
      by_cases hc : a.Clashes resolver as
      · rwa [if_pos hc, List.append_nil]
      · rw [if_neg hc, List.map_append, List.map_singleton, List.nodup_append]
        refine ⟨ih, by simp, fun name hname name' hname' heq => hc (.inr ?_)⟩
        -- An accepted occurrence of the same name would have been a clash.
        obtain ⟨b, hb, rfl⟩ := List.mem_map.mp hname
        obtain ⟨hmem, hfor⟩ := List.mem_filter.mp hb
        refine ⟨b, (accepted_sublist resolver as).subset hmem, by simpa using hfor, ?_⟩
        rw [heq, List.mem_singleton.mp hname']
    · rwa [acceptedFor_concat_of_not_isEligibleFor resolver as ha]

/-- An occurrence that is not eligible for a type leaves its entry as it is. -/
theorem entryFor_concat_of_not_isEligibleFor (h : ¬ a.IsEligibleFor key) :
    entryFor resolver (as ++ [a]) key = entryFor resolver as key := by
  simp only [entryFor, entryOf, eligibleFor_concat, if_neg h, List.append_nil,
    acceptedFor_concat_of_not_isEligibleFor resolver as h]

/-- Claiming the name of an eligible occurrence in the entry of its type, or in a new one if its
type has none, gives the entry after it. -/
theorem exists_accept_entryFor (h : a.IsEligible) :
    ∃ e, entryFor resolver (as ++ [a]) a.key = some e ∧
      ((entryFor resolver as a.key).getD
        (.seeded a.site.kind (resolver.existingMembers a.key).run)).accept a.request =
          (e, if a.Clashes resolver as then .duplicate else .accepted) := by
  have hself : a.IsEligibleFor a.key := ⟨h, rfl⟩
  rw [entryFor, eligibleFor_concat, if_pos hself, List.head?_append]
  cases hhead : (eligibleFor as a.key).head? with
  | some first =>
    refine ⟨entryOf resolver (as ++ [a]) a.key first.site.kind, rfl, ?_⟩
    rw [entryFor, hhead]
    exact accept_entryOf resolver as first.site.kind h
  | none =>
    refine ⟨entryOf resolver (as ++ [a]) a.key a.site.kind, rfl, ?_⟩
    -- Nothing was accepted for the type yet, so its entry would be the seeded one.
    have hnil : eligibleFor as a.key = [] := List.head?_eq_none_iff.mp hhead
    have haccepted : acceptedFor resolver as a.key = [] := by
      refine List.sublist_nil.mp ?_
      rw [← hnil]
      exact (accepted_sublist resolver as).filter _
    have hseeded : Entry.seeded a.site.kind (resolver.existingMembers a.key).run =
        entryOf resolver as a.key a.site.kind := by
      simp [Entry.seeded, entryOf, haccepted]
    rw [entryFor, hhead, Option.map_none, Option.getD_none, hseeded]
    exact accept_entryOf resolver as a.site.kind h

end Entry

end BannerGen
