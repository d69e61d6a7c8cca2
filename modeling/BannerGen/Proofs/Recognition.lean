import BannerGen.Marker
import Mathlib.Data.Fintype.EquivFin
import Mathlib.Order.Monotone.Defs

/-!
# Recognizing markers

What an attribute is to generation, said without the order in which its arguments are bound.

* `Marker.spellings` — the names of a marker; `Marker.isName_iff` says that no other name is one.
* `Marker.Matches` — the arguments are in bijection with the parameters that they are meant for.
* `Marker.fault?` — what is wrong with an argument, told from it and from the arguments before it.

Binding the arguments one after the other fails with the first fault (`Bindings.Hold.foldlM`). If
there is none, each of the three arguments has a parameter of its own, so by counting each of the
three parameters has an argument (`Marker.matches_of_faultless`), and a marker comes of it. So an
attribute is recognized exactly if its name is one of the spellings and its arguments are three
literals that match the parameters (`Attribute.recognize_follows_grammar`).
-/

namespace BannerGen

/-! ### Names -/

namespace Marker

/-- The names of a marker: the simple name, with or without each of the two qualifiers before it
and the ending after it. -/
def spellings : List String :=
  ["", "global::"].flatMap fun root => ["", "Figgle."].flatMap fun qualifier =>
    ["", "Attribute"].map fun ending => root ++ qualifier ++ simpleName ++ ending

/-- An attribute is named as a marker exactly if its name without blanks is one of the spellings. -/
theorem isName_iff (name : String) : isName name = true ↔ Text.trim name ∈ spellings := by
  have hend (cs : List Char) : Text.dropEnd "Attribute".toList cs = simpleName.toList ↔
      ∃ ending ∈ ["", "Attribute"], cs = (simpleName ++ ending).toList := by
    rw [Text.dropEnd_eq_iff, and_iff_left (by decide)]
    simp [or_comm]
  have hstart (p s : String) (h : ¬ p.toList <+: s.toList) (cs : List Char) :
      Text.dropStart p.toList cs = s.toList ↔ ∃ q ∈ ["", p], cs = (q ++ s).toList := by
    rw [Text.dropStart_eq_iff, and_iff_left h]
    simp [or_comm]
  -- What stands after a qualifier never begins with it, so no qualifier is dropped twice.
  have hqualifier : ∀ ending ∈ ["", "Attribute"],
      ¬ "Figgle.".toList <+: (simpleName ++ ending).toList := by decide
  have hroot : ∀ qualifier ∈ ["", "Figgle."], ∀ ending ∈ ["", "Attribute"],
      ¬ "global::".toList <+: (qualifier ++ (simpleName ++ ending)).toList := by decide
  have hofList (s : String) (cs : List Char) : s = String.ofList cs ↔ cs = s.toList := by
    rw [eq_comm, ← String.toList_inj, String.toList_ofList]
  unfold isName Text.trim
  generalize Text.trimChars name.toList = cs
  simp only [spellings, List.mem_flatMap, List.mem_map, beq_iff_eq, hend, hofList]
  constructor
  · rintro ⟨ending, hending, h⟩
    rw [hstart _ _ (hqualifier ending hending)] at h
    obtain ⟨qualifier, hmem, h⟩ := h
    rw [hstart _ _ (hroot qualifier hmem ending hending)] at h
    obtain ⟨root, hmem', h⟩ := h
    exact ⟨root, hmem', qualifier, hmem, ending, hending, by simpa [String.append_assoc] using h⟩
  · rintro ⟨root, hmem', qualifier, hmem, ending, hending, h⟩
    refine ⟨ending, hending, ?_⟩
    rw [hstart _ _ (hqualifier ending hending)]
    refine ⟨qualifier, hmem, ?_⟩
    rw [hstart _ _ (hroot qualifier hmem ending hending)]
    exact ⟨root, hmem', by simpa [String.append_assoc] using h⟩

end Marker

/-! ### What arguments are meant for -/

instance : Fintype Parameter where
  elems := ⟨Parameter.all, by decide⟩
  complete p := by cases p <;> decide

/-- A name is that of a parameter exactly if it is its label. -/
theorem Parameter.ofLabel?_eq_some_iff {name : String} {p : Parameter} :
    ofLabel? name = some p ↔ p.label = name := by
  constructor
  · intro h
    simpa using List.find?_some h
  · rintro rfl
    cases p <;> decide

namespace Argument

/-- The parameter that an argument at position `i` is meant for: the one that it names, or else the
one of its position. -/
def parameter? (x : Argument) (i : Nat) : Option Parameter :=
  x.name.elim Parameter.all[i]? Parameter.ofLabel?

/-- The literal that an argument is, with its location. -/
def literal? (x : Argument) : Option Literal :=
  x.value.text?.map fun value => { value, span := x.span }

variable {x : Argument} {l : Literal}

theorem literal?_eq_some_iff :
    x.literal? = some l ↔ x.value = .text l.value ∧ x.span = l.span := by
  obtain ⟨name, value, span⟩ := x
  obtain ⟨content, place⟩ := l
  cases value <;> simp [literal?, ArgumentValue.text?]

/-- An argument is a literal exactly if its value is a text. -/
theorem exists_literal?_iff :
    (∃ l, x.literal? = some l) ↔ ∃ content, x.value = .text content := by
  obtain ⟨name, value, span⟩ := x
  cases value <;> simp [literal?, ArgumentValue.text?]

end Argument

namespace Marker

/-- The parameter that the argument at position `i` is meant for. -/
def parameterAt? (xs : List Argument) (i : Nat) : Option Parameter :=
  xs[i]?.bind fun x => x.parameter? i

/-- The arguments are in bijection with the parameters that they are meant for. -/
def Matches (xs : List Argument) : Prop :=
  ∃ e : Fin xs.length ≃ Parameter, ∀ i : Fin xs.length, parameterAt? xs i = some (e i)

/-- What is wrong with the argument at position `i`: it names no parameter, or it is meant for the
same parameter as one before it, or it is not a literal. The first of these counts. -/
def fault? (xs : List Argument) (i : Nat) : Option Malformation :=
  xs[i]?.bind fun x => match x.parameter? i with
    | none => x.name.map .unknownParameter
    | some p =>
      if ∃ j < i, parameterAt? xs j = some p then some (.duplicateParameter p)
      else if x.literal? = none then some (.nonLiteral p)
      else none

/-- This is what is wrong with one of the arguments, and nothing is wrong with those before it. -/
def IsFirstFault (xs : List Argument) (r : Malformation) : Prop :=
  ∃ i, fault? xs i = some r ∧ ∀ j < i, fault? xs j = none

/-- The argument of a marker for a parameter. -/
def get (m : Marker) : Parameter → Literal
  | .memberName => m.memberName
  | .fontName => m.fontName
  | .sourceText => m.sourceText

/-- For every parameter, the argument that is meant for it is the literal that the marker has. -/
def Binds (xs : List Argument) (m : Marker) : Prop :=
  ∀ p, ∃ (i : Nat) (x : Argument),
    xs[i]? = some x ∧ x.parameter? i = some p ∧ x.literal? = some (m.get p)

theorem eq_of_get_eq {m n : Marker} (h : ∀ p, m.get p = n.get p) : m = n := by
  cases m
  cases n
  exact congr (congr (congrArg mk (h .memberName)) (h .fontName)) (h .sourceText)

section Faults

variable {xs : List Argument} {i : Nat} {x : Argument} {p position : Parameter}

theorem parameterAt?_eq (hx : xs[i]? = some x) : parameterAt? xs i = x.parameter? i := by
  rw [parameterAt?, hx, Option.bind_some]

theorem fault?_of_none (hx : xs[i]? = some x) (hp : x.parameter? i = none) :
    fault? xs i = x.name.map .unknownParameter := by
  simp only [fault?, hx, Option.bind_some, hp]

theorem fault?_of_some (hx : xs[i]? = some x) (hp : x.parameter? i = some p) :
    fault? xs i =
      if ∃ j < i, parameterAt? xs j = some p then some (.duplicateParameter p)
      else if x.literal? = none then some (.nonLiteral p)
      else none := by
  simp only [fault?, hx, Option.bind_some, hp]

/-- Nothing is wrong with an argument that is meant for a parameter exactly if it is a literal and
no argument before it is meant for the same parameter. -/
theorem fault?_eq_none_iff (hx : xs[i]? = some x) (hp : x.parameter? i = some p) :
    fault? xs i = none ↔ (∀ j < i, parameterAt? xs j ≠ some p) ∧ ∃ l, x.literal? = some l := by
  rw [fault?_of_some hx hp]
  by_cases hbound : ∃ j < i, parameterAt? xs j = some p
  · rw [if_pos hbound]
    obtain ⟨j, hj, hbound⟩ := hbound
    simp only [reduceCtorEq, false_iff]
    exact fun h => h.1 j hj hbound
  · rw [if_neg hbound]
    have hfree : ∀ j < i, parameterAt? xs j ≠ some p := fun j hj h => hbound ⟨j, hj, h⟩
    rw [and_iff_right hfree]
    cases x.literal? <;> simp

/-- An argument at one of the three positions with which nothing is wrong is meant for a
parameter. -/
theorem exists_parameter_of_fault?_eq_none (h : fault? xs i = none) (hx : xs[i]? = some x)
    (hposition : Parameter.all[i]? = some position) : ∃ p, x.parameter? i = some p := by
  cases hp : x.parameter? i with
  | some p => exact ⟨p, rfl⟩
  | none =>
    rw [fault?_of_none hx hp, Option.map_eq_none_iff] at h
    -- Without a name, the argument is meant for the parameter of its position.
    simp [Argument.parameter?, h, hposition] at hp

theorem lt_length_of_parameterAt? (h : parameterAt? xs i = some p) : i < xs.length := by
  obtain ⟨x, hx, _⟩ := Option.bind_eq_some_iff.mp h
  exact (List.getElem?_eq_some_iff.mp hx).1

theorem lt_length_of_fault? {r : Malformation} (h : fault? xs i = some r) : i < xs.length := by
  obtain ⟨x, hx, _⟩ := Option.bind_eq_some_iff.mp h
  exact (List.getElem?_eq_some_iff.mp hx).1

/-- The number of arguments is nothing that is wrong with one of them. -/
theorem fault?_ne_wrongArity (xs : List Argument) (i n : Nat) :
    fault? xs i ≠ some (.wrongArity n) := by
  intro h
  obtain ⟨x, hx, _⟩ := Option.bind_eq_some_iff.mp h
  cases hp : x.parameter? i with
  | none => simp [fault?_of_none hx hp] at h
  | some p =>
    rw [fault?_of_some hx hp] at h
    split at h
    · cases h
    · split at h <;> cases h

theorem IsFirstFault.unique {r r' : Malformation} (h : IsFirstFault xs r)
    (h' : IsFirstFault xs r') : r = r' := by
  obtain ⟨i, hi, hbefore⟩ := h
  obtain ⟨j, hj, hbefore'⟩ := h'
  rcases Nat.lt_trichotomy i j with hij | rfl | hji
  · cases hi.symm.trans (hbefore' i hij)
  · exact Option.some.inj (hi.symm.trans hj)
  · cases hj.symm.trans (hbefore j hji)

end Faults

/-! ### Matching arguments and parameters -/

section Matching

variable {xs : List Argument}

/-- If nothing is wrong with three arguments, they match the parameters. -/
theorem matches_of_faultless (hlength : xs.length = 3) (h : ∀ j < 3, fault? xs j = none) :
    Matches xs := by
  have hfault (i : Fin xs.length) : fault? xs i = none := h i (by omega)
  have hx (i : Fin xs.length) : xs[i.val]? = some xs[i] := List.getElem?_eq_getElem i.isLt
  have hmeant (i : Fin xs.length) : ∃ p, xs[i].parameter? i = some p := by
    have hi : i.val < Parameter.all.length := i.isLt.trans_eq hlength
    exact exists_parameter_of_fault?_eq_none (hfault i) (hx i) (List.getElem?_eq_getElem hi)
  choose target htarget using hmeant
  -- No argument is meant for the same parameter as one before it.
  have hinjective : Function.Injective target := by
    apply Function.Injective.of_lt_imp_ne
    intro i j hij heq
    have hfree := ((fault?_eq_none_iff (hx j) (htarget j)).mp (hfault j)).1
    apply hfree i hij
    rw [parameterAt?_eq (hx i), htarget i, heq]
  -- There are as many arguments as parameters, so no parameter is left out.
  have hbijective : Function.Bijective target :=
    (Fintype.bijective_iff_injective_and_card target).mpr
      ⟨hinjective, (Fintype.card_fin _).trans hlength⟩
  refine ⟨.ofBijective target hbijective, fun i => ?_⟩
  exact (parameterAt?_eq (hx i)).trans (htarget i)

/-- Different arguments are meant for different parameters. -/
theorem Matches.eq_of_parameterAt?_eq (h : Matches xs) {i j : Nat} {p : Parameter}
    (hi : parameterAt? xs i = some p) (hj : parameterAt? xs j = some p) : i = j := by
  obtain ⟨e, he⟩ := h
  have hi' := (he ⟨i, lt_length_of_parameterAt? hi⟩).symm.trans hi
  have hj' := (he ⟨j, lt_length_of_parameterAt? hj⟩).symm.trans hj
  have heq := e.injective (Option.some.inj (hi'.trans hj'.symm))
  exact congrArg Fin.val heq

/-- Nothing is wrong with literals that match the parameters. -/
theorem Matches.faultless (h : Matches xs) (hliteral : ∀ x ∈ xs, ∃ l, x.literal? = some l)
    (i : Nat) : fault? xs i = none := by
  cases hx : xs[i]? with
  | none => rw [fault?, hx, Option.bind_none]
  | some x =>
    obtain ⟨hi, _⟩ := List.getElem?_eq_some_iff.mp hx
    obtain ⟨e, he⟩ := id h
    have hp : parameterAt? xs i = some (e ⟨i, hi⟩) := he ⟨i, hi⟩
    rw [fault?_eq_none_iff hx ((parameterAt?_eq hx).symm.trans hp)]
    refine ⟨fun j hj hbound => ?_, hliteral x (List.mem_of_getElem? hx)⟩
    have heq := h.eq_of_parameterAt?_eq hbound hp
    omega

variable {m n : Marker}

/-- Three arguments that give a marker its literals are literals that match the parameters. -/
theorem Binds.matches (h : Binds xs m) (hlength : xs.length = 3) :
    Matches xs ∧ ∀ x ∈ xs, ∃ l, x.literal? = some l := by
  choose position x hx hp hl using h
  let place (p : Parameter) : Fin xs.length :=
    ⟨position p, (List.getElem?_eq_some_iff.mp (hx p)).1⟩
  have hmeant (p : Parameter) : parameterAt? xs (place p) = some p :=
    (parameterAt?_eq (hx p)).trans (hp p)
  have hinjective : Function.Injective place := by
    intro p q hpq
    have hq := hmeant q
    rw [← hpq, hmeant p] at hq
    exact Option.some.inj hq
  -- Every parameter has an argument, so by counting every argument has a parameter.
  have hbijective : Function.Bijective place :=
    (Fintype.bijective_iff_injective_and_card place).mpr
      ⟨hinjective, hlength.symm.trans (Fintype.card_fin _).symm⟩
  refine ⟨⟨(Equiv.ofBijective place hbijective).symm, fun i => ?_⟩, fun y hy => ?_⟩
  · obtain ⟨p, rfl⟩ := hbijective.surjective i
    rw [Equiv.ofBijective_symm_apply_apply]
    exact hmeant p
  · obtain ⟨i, hi⟩ := List.mem_iff_getElem?.mp hy
    obtain ⟨p, hplace⟩ := hbijective.surjective ⟨i, (List.getElem?_eq_some_iff.mp hi).1⟩
    have hposition : position p = i := congrArg Fin.val hplace
    have hsame := hx p
    rw [hposition, hi] at hsame
    cases hsame
    exact ⟨_, hl p⟩

/-- Matching arguments say all about the marker. -/
theorem Matches.literal?_eq (h : Matches xs) (hm : Binds xs m) {i : Nat} {x : Argument}
    {p : Parameter} (hx : xs[i]? = some x) (hp : x.parameter? i = some p) :
    x.literal? = some (m.get p) := by
  obtain ⟨j, y, hy, hq, hl⟩ := hm p
  obtain rfl := h.eq_of_parameterAt?_eq ((parameterAt?_eq hx).trans hp)
    ((parameterAt?_eq hy).trans hq)
  cases hx.symm.trans hy
  exact hl

theorem Binds.unique (hm : Binds xs m) (hn : Binds xs n) (h : Matches xs) : m = n := by
  apply eq_of_get_eq
  intro p
  obtain ⟨i, x, hx, hp, hl⟩ := hm p
  exact Option.some.inj (hl.symm.trans (h.literal?_eq hn hx hp))

end Matching

/-! ### Binding one argument after the other -/

namespace Bindings

variable {b : Bindings} {xs : List Argument} {n : Nat} {x : Argument} {l : Literal}
  {p q position : Parameter}

theorem get?_insert : (b.insert p l).get? q = if q = p then some l else b.get? q := by
  cases p <;> cases q <;> rfl

theorem marker?_eq_some_iff {m : Marker} :
    b.marker? = some m ↔ ∀ p, b.get? p = some (m.get p) := by
  constructor
  · intro h p
    obtain ⟨_ | _, _ | _, _ | _⟩ := b <;> cases h
    cases p <;> rfl
  · intro h
    obtain ⟨memberName, fontName, sourceText⟩ := b
    obtain rfl : memberName = _ := h .memberName
    obtain rfl : fontName = _ := h .fontName
    obtain rfl : sourceText = _ := h .sourceText
    rfl

/-- If every parameter is bound, there is a marker. -/
theorem exists_marker? (b : Bindings) (h : ∀ p, (b.get? p).isSome) : ∃ m, b.marker? = some m := by
  simp only [Option.isSome_iff_exists] at h
  choose literal hliteral using h
  refine ⟨⟨literal .memberName, literal .fontName, literal .sourceText⟩, ?_⟩
  rw [marker?_eq_some_iff]
  intro p
  cases p <;> exact hliteral _

/-- An argument that is meant for no parameter is not bound. -/
theorem bind_of_none (b : Bindings) (hposition : Parameter.all[n]? = some position)
    (hp : x.parameter? n = none) :
    ∃ name, x.name = some name ∧ b.bind position x = .error (.unknownParameter name) := by
  rw [Bindings.bind]
  cases hname : x.name with
  | none => simp [Argument.parameter?, hname, hposition] at hp
  | some name =>
    rw [Argument.parameter?, hname, Option.elim_some] at hp
    simp only [hp]
    exact ⟨name, rfl, rfl⟩

/-- An argument that is meant for a parameter is bound to it, if it is free. -/
theorem bind_of_some (b : Bindings) (hposition : Parameter.all[n]? = some position)
    (hp : x.parameter? n = some p) :
    b.bind position x =
      if (b.get? p).isSome then .error (.duplicateParameter p)
      else x.literal?.elim (.error (.nonLiteral p)) fun l => .ok (b.insert p l) := by
  rw [Bindings.bind, Argument.literal?]
  cases hname : x.name with
  | none =>
    obtain rfl : position = p := by
      simpa [Argument.parameter?, hname, hposition] using hp
    cases x.value.text? <;> rfl
  | some name =>
    rw [Argument.parameter?, hname, Option.elim_some] at hp
    simp only [hp]
    cases x.value.text? <;> rfl

/-- The parameters are bound to the first `n` arguments, and nothing is wrong with these. -/
structure Hold (b : Bindings) (xs : List Argument) (n : Nat) : Prop where
  /-- Nothing is wrong with the arguments. -/
  faultless : ∀ j < n, fault? xs j = none
  /-- A parameter is bound to the literal that is meant for it. -/
  get?_eq_some_iff : ∀ p l, b.get? p = some l ↔
    ∃ j < n, ∃ x, xs[j]? = some x ∧ x.parameter? j = some p ∧ x.literal? = some l

theorem hold_zero (xs : List Argument) : Hold {} xs 0 where
  faultless j hj := absurd hj (Nat.not_lt_zero j)
  get?_eq_some_iff p l := by cases p <;> simp [get?]

/-- A parameter is bound exactly if one of the arguments is meant for it. -/
theorem Hold.isSome_get?_iff (h : b.Hold xs n) :
    (b.get? p).isSome ↔ ∃ j < n, parameterAt? xs j = some p := by
  rw [Option.isSome_iff_exists]
  constructor
  · rintro ⟨l, hl⟩
    obtain ⟨j, hj, x, hx, hp, _⟩ := (h.get?_eq_some_iff p l).mp hl
    exact ⟨j, hj, (parameterAt?_eq hx).trans hp⟩
  · rintro ⟨j, hj, hp⟩
    obtain ⟨x, hx, hp⟩ := Option.bind_eq_some_iff.mp hp
    obtain ⟨_, l, hl⟩ := (fault?_eq_none_iff hx hp).mp (h.faultless j hj)
    exact ⟨l, (h.get?_eq_some_iff p l).mpr ⟨j, hj, x, hx, hp, hl⟩⟩

/-- One more literal is bound to a parameter that no argument before it is meant for. -/
theorem Hold.insert (h : b.Hold xs n) (hx : xs[n]? = some x) (hp : x.parameter? n = some p)
    (hl : x.literal? = some l) (hfree : ∀ j < n, parameterAt? xs j ≠ some p) :
    (b.insert p l).Hold xs (n + 1) where
  faultless j hj := by
    rcases Nat.lt_succ_iff_lt_or_eq.mp hj with hj | rfl
    · exact h.faultless j hj
    · exact (fault?_eq_none_iff hx hp).mpr ⟨hfree, l, hl⟩
  get?_eq_some_iff q k := by
    have hlast : (∃ j < n + 1, ∃ y, xs[j]? = some y ∧ y.parameter? j = some q ∧
        y.literal? = some k) ↔ b.get? q = some k ∨ q = p ∧ k = l := by
      rw [h.get?_eq_some_iff q k]
      simp only [Nat.lt_succ_iff_lt_or_eq, or_and_right, exists_or, hx, Option.some.injEq,
        exists_eq_left', hp, hl, eq_comm]
    rw [hlast, get?_insert]
    by_cases hq : q = p
    · -- The parameter was not bound before, so it has the new literal and no other.
      subst hq
      have hnone : b.get? q = none := by
        rw [← Option.not_isSome_iff_eq_none, h.isSome_get?_iff]
        rintro ⟨j, hj, hbound⟩
        exact hfree j hj hbound
      simp [hnone, eq_comm]
    · simp [hq]

/-- Binding one more argument fails with what is wrong with it, or it goes on. -/
theorem Hold.bind (h : b.Hold xs n) (hx : xs[n]? = some x)
    (hposition : Parameter.all[n]? = some position) :
    (∃ r, b.bind position x = .error r ∧ fault? xs n = some r) ∨
      ∃ c, b.bind position x = .ok c ∧ c.Hold xs (n + 1) := by
  cases hp : x.parameter? n with
  | none =>
    obtain ⟨name, hname, hbind⟩ := b.bind_of_none hposition hp
    refine .inl ⟨_, hbind, ?_⟩
    rw [fault?_of_none hx hp, hname, Option.map_some]
  | some p =>
    rw [b.bind_of_some hposition hp, fault?_of_some hx hp]
    by_cases hbound : ∃ j < n, parameterAt? xs j = some p
    · rw [if_pos hbound, if_pos (h.isSome_get?_iff.mpr hbound)]
      exact .inl ⟨_, rfl, rfl⟩
    · rw [if_neg hbound, if_neg (mt h.isSome_get?_iff.mp hbound)]
      cases hl : x.literal? with
      | none => exact .inl ⟨_, rfl, rfl⟩
      | some l =>
        refine .inr ⟨_, rfl, h.insert hx hp hl ?_⟩
        exact fun j hj hmeant => hbound ⟨j, hj, hmeant⟩

/-- Binding arguments one after the other fails with the first fault, or it binds all of them. -/
theorem Hold.foldlM (h : b.Hold xs n) (pairs : List (Parameter × Argument))
    (hpairs : ∀ k p x, pairs[k]? = some (p, x) →
      Parameter.all[n + k]? = some p ∧ xs[n + k]? = some x) :
    (∃ r, pairs.foldlM (fun b q => b.bind q.1 q.2) b = .error r ∧ IsFirstFault xs r) ∨
      ∃ c, pairs.foldlM (fun b q => b.bind q.1 q.2) b = .ok c ∧ c.Hold xs (n + pairs.length) := by
  induction pairs generalizing b n with
  | nil => exact .inr ⟨b, rfl, h⟩
  | cons pair pairs ih =>
    obtain ⟨position, x⟩ := pair
    obtain ⟨hposition, hx⟩ := hpairs 0 position x rfl
    rw [List.foldlM_cons]
    rcases h.bind hx hposition with ⟨r, hbind, hr⟩ | ⟨c, hbind, hc⟩
    · refine .inl ⟨r, ?_, n, hr, h.faultless⟩
      rw [hbind]
      rfl
    · rw [hbind, List.length_cons, ← Nat.succ_add_eq_add_succ]
      apply ih hc
      intro k p y hy
      rw [Nat.succ_add_eq_add_succ]
      exact hpairs (k + 1) p y hy

end Bindings

/-! ### The arguments of a marker -/

section Arguments

variable {xs : List Argument} {m : Marker}

/-- Three arguments are bound one after the other, each at its position. -/
theorem ofArguments_eq (hlength : xs.length = 3) :
    ofArguments xs = (Parameter.all.zip xs).foldlM (fun b q => b.bind q.1 q.2) ({} : Bindings) >>=
      fun b => b.marker?.elim (.error (.wrongArity 3)) .ok := by
  obtain ⟨x, y, z, rfl⟩ := List.length_eq_three.mp hlength
  simp only [ofArguments, Parameter.all, List.zip_cons_cons, List.zip_nil_left, List.foldlM_cons,
    List.foldlM_nil, bind_assoc, pure_bind]
  refine bind_congr fun b => bind_congr fun c => bind_congr fun d => ?_
  cases d.marker? <;> rfl

theorem ofArguments_of_length_ne (hlength : xs.length ≠ 3) :
    ofArguments xs = .error (.wrongArity xs.length) := by
  unfold ofArguments
  split
  · exact absurd rfl hlength
  · rfl

/-- Three arguments have a first fault, or they are bound. -/
theorem ofArguments_cases (hlength : xs.length = 3) :
    (∃ r, ofArguments xs = .error r ∧ IsFirstFault xs r) ∨
      ∃ m, ofArguments xs = .ok m ∧ (∀ j < 3, fault? xs j = none) ∧ Binds xs m := by
  have hpairs (k : Nat) (p : Parameter) (x : Argument)
      (h : (Parameter.all.zip xs)[k]? = some (p, x)) :
      Parameter.all[0 + k]? = some p ∧ xs[0 + k]? = some x := by
    rw [Nat.zero_add]
    exact List.getElem?_zip_eq_some.mp h
  rw [ofArguments_eq hlength]
  rcases (Bindings.hold_zero xs).foldlM _ hpairs with ⟨r, hrun, hr⟩ | ⟨b, hrun, hb⟩
  · rw [hrun]
    exact .inl ⟨r, rfl, hr⟩
  · have hcount : 0 + (Parameter.all.zip xs).length = 3 := by simp [Parameter.all, hlength]
    rw [hcount] at hb
    obtain ⟨e, he⟩ := matches_of_faultless hlength hb.faultless
    -- No parameter is left out, so the last check never fails.
    have hbound (p : Parameter) : (b.get? p).isSome := by
      rw [hb.isSome_get?_iff]
      refine ⟨e.symm p, (e.symm p).isLt.trans_eq hlength, ?_⟩
      rw [he, e.apply_symm_apply]
    obtain ⟨m, hm⟩ := b.exists_marker? hbound
    refine .inr ⟨m, ?_, hb.faultless, fun p => ?_⟩
    · rw [hrun]
      show b.marker?.elim _ _ = _
      rw [hm]
      rfl
    · obtain ⟨i, _, hi⟩ := (hb.get?_eq_some_iff p _).mp (Bindings.marker?_eq_some_iff.mp hm p)
      exact ⟨i, hi⟩

/-- Arguments make a marker exactly if there are three of them and they give it its literals. -/
theorem ofArguments_eq_ok_iff : ofArguments xs = .ok m ↔ xs.length = 3 ∧ Binds xs m := by
  constructor
  · intro h
    have hlength : xs.length = 3 := by
      by_contra hne
      cases h.symm.trans (ofArguments_of_length_ne hne)
    rcases ofArguments_cases hlength with ⟨r, hr, _⟩ | ⟨n, hn, _, hbinds⟩
    · cases h.symm.trans hr
    · cases h.symm.trans hn
      exact ⟨hlength, hbinds⟩
  · rintro ⟨hlength, hbinds⟩
    obtain ⟨hmatches, hliteral⟩ := hbinds.matches hlength
    rcases ofArguments_cases hlength with ⟨r, _, i, hr, _⟩ | ⟨n, hn, _, hbinds'⟩
    · cases (hmatches.faultless hliteral i).symm.trans hr
    · rw [hn, hbinds.unique hbinds' hmatches]

/-- Some marker comes of arguments exactly if they are three literals that match the parameters. -/
theorem exists_ofArguments_eq_ok_iff :
    (∃ m, ofArguments xs = .ok m) ↔
      xs.length = 3 ∧ (∀ x ∈ xs, ∃ content, x.value = .text content) ∧ Matches xs := by
  simp only [← Argument.exists_literal?_iff]
  constructor
  · rintro ⟨m, h⟩
    obtain ⟨hlength, hbinds⟩ := ofArguments_eq_ok_iff.mp h
    obtain ⟨hmatches, hliteral⟩ := hbinds.matches hlength
    exact ⟨hlength, hliteral, hmatches⟩
  · rintro ⟨hlength, hliteral, hmatches⟩
    rcases ofArguments_cases hlength with ⟨r, _, i, hr, _⟩ | ⟨m, hm, _⟩
    · cases (hmatches.faultless hliteral i).symm.trans hr
    · exact ⟨m, hm⟩

/-- Three arguments make no marker exactly if one of them has a fault, and the first fault is the
reason. -/
theorem ofArguments_eq_error_iff (hlength : xs.length = 3) {r : Malformation} :
    ofArguments xs = .error r ↔ IsFirstFault xs r := by
  rcases ofArguments_cases hlength with ⟨r', hr, hfirst⟩ | ⟨m, hm, hfaultless, _⟩
  · rw [hr, Except.error.injEq]
    constructor
    · rintro rfl
      exact hfirst
    · exact hfirst.unique
  · rw [hm]
    constructor
    · intro h
      cases h
    · rintro ⟨i, hi, _⟩
      cases hi.symm.trans (hfaultless i ((lt_length_of_fault? hi).trans_eq hlength))

/-- If all arguments have names, their positions do not matter. -/
theorem binds_iff_of_named (h : ∀ x ∈ xs, x.name ≠ none) :
    Binds xs m ↔
      ∀ p, ∃ x ∈ xs, x.name = some p.label ∧ x.literal? = some (m.get p) := by
  have hmeant (x : Argument) (hx : x ∈ xs) (i : Nat) (p : Parameter) :
      x.parameter? i = some p ↔ x.name = some p.label := by
    obtain ⟨name, hname⟩ := Option.ne_none_iff_exists'.mp (h x hx)
    rw [Argument.parameter?, hname, Option.elim_some, Parameter.ofLabel?_eq_some_iff,
      Option.some.injEq, eq_comm]
  refine forall_congr' fun p => ?_
  constructor
  · rintro ⟨i, x, hx, hp, hl⟩
    have hmem := List.mem_of_getElem? hx
    exact ⟨x, hmem, (hmeant x hmem i p).mp hp, hl⟩
  · rintro ⟨x, hmem, hname, hl⟩
    obtain ⟨i, hx⟩ := List.mem_iff_getElem?.mp hmem
    exact ⟨i, x, hx, (hmeant x hmem i p).mpr hname, hl⟩

end Arguments

end Marker

/-! ### Attributes -/

namespace Attribute

variable {a : Attribute}

theorem recognize_eq_notRecognized_iff :
    a.recognize = .notRecognized ↔ Text.trim a.name ∉ Marker.spellings := by
  rw [← Marker.isName_iff, recognize]
  by_cases hname : Marker.isName a.name = true
  · cases Marker.ofArguments a.arguments <;> simp [hname]
  · simp [hname]

theorem recognize_eq_recognized_iff {m : Marker} :
    a.recognize = .recognized m ↔
      Text.trim a.name ∈ Marker.spellings ∧ Marker.ofArguments a.arguments = .ok m := by
  rw [← Marker.isName_iff, recognize]
  by_cases hname : Marker.isName a.name = true
  · cases Marker.ofArguments a.arguments <;> simp [hname]
  · simp [hname]

theorem recognize_eq_malformed_iff {r : Malformation} :
    a.recognize = .malformed r ↔
      Text.trim a.name ∈ Marker.spellings ∧ Marker.ofArguments a.arguments = .error r := by
  rw [← Marker.isName_iff, recognize]
  by_cases hname : Marker.isName a.name = true
  · cases Marker.ofArguments a.arguments <;> simp [hname]
  · simp [hname]

/-- An attribute is no marker exactly if its name without blanks is none of the spellings. With such
a name, it is recognized exactly if its arguments are three literals that match the parameters. The
marker then has the literals and the locations of the arguments that are meant for its parameters,
and if all arguments have names, their order does not matter. Otherwise the attribute is malformed:
for the number of its arguments exactly if that is not three, and with three arguments exactly for
the first fault. -/
theorem recognize_follows_grammar (a : Attribute) :
    (a.recognize = .notRecognized ↔ Text.trim a.name ∉ Marker.spellings) ∧
    ((∃ m, a.recognize = .recognized m) ↔
      Text.trim a.name ∈ Marker.spellings ∧ a.arguments.length = 3 ∧
        (∀ x ∈ a.arguments, ∃ content, x.value = .text content) ∧ Marker.Matches a.arguments) ∧
    (∀ m, a.recognize = .recognized m → ∀ (i : Nat) (x : Argument) (p : Parameter),
      a.arguments[i]? = some x → x.parameter? i = some p →
        x.value = .text (m.get p).value ∧ x.span = (m.get p).span) ∧
    ((∀ x ∈ a.arguments, x.name ≠ none) → ∀ xs : List Argument, xs.Perm a.arguments →
      ∀ m, recognize { a with arguments := xs } = .recognized m ↔ a.recognize = .recognized m) ∧
    (∀ n, a.recognize = .malformed (.wrongArity n) ↔
      Text.trim a.name ∈ Marker.spellings ∧ a.arguments.length = n ∧ n ≠ 3) ∧
    (a.arguments.length = 3 → ∀ r, a.recognize = .malformed r ↔
      Text.trim a.name ∈ Marker.spellings ∧ Marker.IsFirstFault a.arguments r) := by
  refine ⟨recognize_eq_notRecognized_iff, ?_, ?_, ?_, ?_, ?_⟩
  · simp only [recognize_eq_recognized_iff, exists_and_left, Marker.exists_ofArguments_eq_ok_iff]
  · intro m hm i x p hx hp
    obtain ⟨_, hm⟩ := recognize_eq_recognized_iff.mp hm
    obtain ⟨hlength, hbinds⟩ := Marker.ofArguments_eq_ok_iff.mp hm
    rw [← Argument.literal?_eq_some_iff]
    exact (hbinds.matches hlength).1.literal?_eq hbinds hx hp
  · intro hnamed xs hperm m
    have hnamed' : ∀ x ∈ xs, x.name ≠ none := fun x hx => hnamed x (hperm.mem_iff.mp hx)
    rw [recognize_eq_recognized_iff, recognize_eq_recognized_iff, Marker.ofArguments_eq_ok_iff,
      Marker.ofArguments_eq_ok_iff, Marker.binds_iff_of_named hnamed,
      Marker.binds_iff_of_named hnamed', hperm.length_eq]
    simp only [hperm.mem_iff]
  · intro n
    rw [recognize_eq_malformed_iff]
    refine and_congr_right fun _ => ?_
    by_cases hlength : a.arguments.length = 3
    · -- Three arguments are not bound only for a fault, and their number is none.
      rw [Marker.ofArguments_eq_error_iff hlength]
      constructor
      · rintro ⟨i, hi, _⟩
        exact absurd hi (Marker.fault?_ne_wrongArity _ i n)
      · rintro ⟨rfl, hne⟩
        exact absurd hlength hne
    · rw [Marker.ofArguments_of_length_ne hlength]
      simp only [Except.error.injEq, Malformation.wrongArity.injEq]
      constructor
      · rintro rfl
        exact ⟨rfl, hlength⟩
      · exact fun h => h.1
  · intro hlength r
    rw [recognize_eq_malformed_iff, Marker.ofArguments_eq_error_iff hlength]

/-- A marker with both qualifiers and the ending, between blanks, and with arguments by name in
another order; and one whose second argument is the first with a fault, in fact with two: its
parameter is given already, and it is no literal. -/
theorem recognize_follows_grammar_named :
    let name := "\u3000global::Figgle.GenerateFiggleTextAttribute\t"
    let arg (label content : String) : Argument := { name := some label, value := .text content }
    let a : Attribute :=
      { name, arguments := [arg "sourceText" "t", arg "memberName" "M", arg "fontName" "f"] }
    let b : Attribute :=
      { name, arguments := [{ value := .text "M" },
        { name := some "memberName", value := .expression "e" }, arg "text" "t"] }
    (∀ x ∈ a.arguments, x.name ≠ none) ∧ a.arguments.reverse.Perm a.arguments ∧
      (∃ m, a.recognize = .recognized m ∧ m.memberName.value = "M" ∧
        recognize { a with arguments := a.arguments.reverse } = .recognized m) ∧
      b.recognize = .malformed (.duplicateParameter .memberName) := by
  intro name arg a b
  have hname : Text.trim name ∈ Marker.spellings := by decide +kernel
  have hnamed : ∀ x ∈ a.arguments, x.name ≠ none := by decide
  have hperm := a.arguments.reverse_perm
  let m : Marker := { memberName := ⟨"M", {}⟩, fontName := ⟨"f", {}⟩, sourceText := ⟨"t", {}⟩ }
  have hm : a.recognize = .recognized m := by decide +kernel
  obtain ⟨-, -, -, hreorder, -, -⟩ := recognize_follows_grammar a
  obtain ⟨-, -, -, -, -, hmalformed⟩ := recognize_follows_grammar b
  refine ⟨hnamed, hperm, ⟨m, hm, rfl, (hreorder hnamed _ hperm m).mpr hm⟩, ?_⟩
  exact (hmalformed rfl _).mpr ⟨hname, 1, by decide, by decide⟩

end Attribute

end BannerGen
