import BannerGen.Json.Record
import Mathlib.Algebra.Group.Nat.Defs
import Mathlib.Data.List.Nodup

/-!
# Reading records back

Something that is written as a JSON value and read from it again comes back if there is room for
all the containers of the value, and is refused otherwise: `ReadsBack` says both. The containers of
a written record are the record itself and those of its fields, and none of them is passed over, so
the room that is needed is the depth of the value.
-/

namespace BannerGen.Json

open Value

variable {α β : Type}

/-! ### Depth -/

namespace Value

theorem depthItems_le {n : Nat} (vs : List Value) :
    depthItems vs ≤ n ↔ ∀ v ∈ vs, v.depth ≤ n := by
  induction vs with
  | nil => simp [depthItems]
  | cons v vs ih => rw [depthItems, Nat.max_le, ih, List.forall_mem_cons]

theorem depthMembers_le {n : Nat} (ms : List (Option String × Value)) :
    depthMembers ms ≤ n ↔ ∀ m ∈ ms, m.2.depth ≤ n := by
  induction ms with
  | nil => simp [depthMembers]
  | cons m ms ih => rw [depthMembers, Nat.max_le, ih, List.forall_mem_cons]

@[simp]
theorem depth_array_le_succ {n : Nat} (vs : List Value) :
    (array vs).depth ≤ n + 1 ↔ ∀ v ∈ vs, v.depth ≤ n := by
  rw [depth, Nat.succ_le_succ_iff, depthItems_le]

@[simp]
theorem depth_array_ne_zero (vs : List Value) : (array vs).depth ≠ 0 := by
  rw [depth]
  omega

@[simp]
theorem depth_record_le_succ {n : Nat} (fs : List (String × Value)) :
    (record fs).depth ≤ n + 1 ↔ ∀ f ∈ fs, f.2.depth ≤ n := by
  rw [record, depth, Nat.succ_le_succ_iff, depthMembers_le, List.forall_mem_map]

@[simp]
theorem depth_record_ne_zero (fs : List (String × Value)) : (record fs).depth ≠ 0 := by
  rw [record, depth]
  omega

@[simp]
theorem depth_string (s : Option String) : (Value.string s).depth = 0 := by
  simp [depth]

@[simp]
theorem depth_natural (n : Nat) : (natural n).depth = 0 := by
  simp [depth]

@[simp]
theorem depth_bool (b : Bool) : (Value.bool b).depth = 0 := by
  simp [depth]

@[simp]
theorem depth_ofText? (s : Option String) : (ofText? s).depth = 0 := by
  cases s <;> simp [ofText?, depth]

end Value

/-! ### Fields -/

theorem lookup_record (fs : List (String × Value)) (name : String) :
    (fs.map fun f => (some f.1, f.2)).lookup (some name) = fs.lookup name := by
  induction fs with
  | nil => rfl
  | cons f fs ih =>
    have hbeq : (some name == some f.1) = (name == f.1) := by
      by_cases h : name = f.1 <;> simp [h]
    rw [List.map_cons, List.lookup_cons, List.lookup_cons, hbeq, ih]

/-- A record with different field names is read field by field. -/
theorem fields?_record (names : List String) {fs : List (String × Value)}
    (h : (fs.map Prod.fst).Nodup) :
    (record fs).fields? names = some fun name => fs.lookup name := by
  -- No field is given twice, so the members are not refused.
  have honce : ∀ name, ((fs.map fun f => (some f.1, f.2)).filter (·.1 = some name)).length ≤ 1 := by
    intro name
    have hcount := List.nodup_iff_count_le_one.mp h name
    rw [List.count, List.countP_map, List.countP_eq_length_filter] at hcount
    rw [List.filter_map, List.length_map]
    refine Nat.le_trans (Nat.le_of_eq ?_) hcount
    congr 2
    funext f
    by_cases hname : f.1 = name <;> simp [hname]
  rw [record, fields?, Fields.ofMembers?, if_pos ⟨by simp, by simpa using fun name _ => honce name⟩]
  simp only [lookup_record]

@[simp]
theorem asText?_text (s : String) : (text s).asText? = some s := rfl

@[simp]
theorem asBool?_bool (b : Bool) : (Value.bool b).asBool? = some b := rfl

@[simp]
theorem asOptionalText?_ofText? (s : Option String) : (ofText? s).asOptionalText? = some s := by
  cases s <;> rfl

@[simp]
theorem asNat?_natural {bits n m : Nat} :
    (natural n).asNat? bits = some m ↔ n = m ∧ n < 2 ^ bits := by
  change (if n < 2 ^ bits then some n else none) = some m ↔ _
  by_cases h : n < 2 ^ bits <;> simp [h]

theorem lt_of_asNat?_eq_some {bits n : Nat} {v : Value} (h : v.asNat? bits = some n) :
    n < 2 ^ bits := by
  cases v with
  | natural m =>
    obtain ⟨rfl, hlt⟩ := asNat?_natural.mp h
    exact hlt
  | _ => simp [asNat?] at h

/-- A field with a default is the default, or what is read from the value given for it. -/
theorem Fields.optional_eq_some_iff {f : Fields} {name : String} {a b : α}
    {read : Value → Option α} :
    f.optional name a read = some b ↔
      f name = none ∧ a = b ∨ ∃ v, f name = some v ∧ read v = some b := by
  rw [Fields.optional]
  cases f name <;> simp

/-! ### What is read -/

theorem exists_of_mem_mapM {read : Value → Option α} {vs : List Value} {as : List α}
    (h : vs.mapM read = some as) : ∀ a ∈ as, ∃ v, read v = some a := by
  induction vs generalizing as with
  | nil =>
    cases h
    simp
  | cons v vs ih =>
    simp only [List.mapM_cons, Option.bind_eq_bind, Option.bind_eq_some_iff, Option.pure_def,
      Option.some.injEq] at h
    obtain ⟨a, ha, as, has, rfl⟩ := h
    exact List.forall_mem_cons.mpr ⟨⟨v, ha⟩, ih has⟩

/-- Every item of a list was read from some value. -/
theorem exists_of_mem_asList? {read : ReaderOf α} {room : Nat} {v : Value} {as : List α}
    (h : asList? read room v = some as) : ∀ a ∈ as, ∃ room v, read room v = some a := by
  cases room with
  | zero => simp [asList?] at h
  | succ room =>
    cases v with
    | array items =>
      intro a ha
      exact ⟨room, exists_of_mem_mapM h a ha⟩
    | _ => simp [asList?] at h

/-! ### Reading back -/

/-- What is written for `a` is read as `a`, and not as anything else, if there is room for all of
its containers and if it `fits`, that is, its numbers are in the ranges that are read. Otherwise it
is refused. -/
def ReadsBack (read : ReaderOf α) (write : α → Value) (a : α) (fits : Prop) : Prop :=
  ∀ room b, read room (write a) = some b ↔ a = b ∧ (write a).depth ≤ room ∧ fits

theorem mapM_readsBack {read : ReaderOf α} {write : α → Value} {fits : α → Prop} {as : List α}
    (h : ∀ a ∈ as, ReadsBack read write a (fits a)) (room : Nat) (bs : List α) :
    (as.map write).mapM (read room) = some bs ↔
      as = bs ∧ ∀ a ∈ as, (write a).depth ≤ room ∧ fits a := by
  induction as generalizing bs with
  | nil => simp
  | cons a as ih =>
    obtain ⟨ha, has⟩ := List.forall_mem_cons.mp h
    rw [List.map_cons, List.mapM_cons]
    simp only [Option.bind_eq_bind, Option.bind_eq_some_iff, ha room, ih has, Option.pure_def,
      Option.some.injEq, List.forall_mem_cons]
    constructor
    · rintro ⟨_, ⟨rfl, hfirst⟩, _, ⟨rfl, hrest⟩, rfl⟩
      exact ⟨rfl, hfirst, hrest⟩
    · rintro ⟨rfl, hfirst, hrest⟩
      exact ⟨a, ⟨rfl, hfirst⟩, as, ⟨rfl, hrest⟩, rfl⟩

/-- A list is read back if its items are. -/
theorem asList?_map_eq_some_iff {read : ReaderOf α} {write : α → Value} {fits : α → Prop}
    {as bs : List α} (h : ∀ a ∈ as, ReadsBack read write a (fits a)) (room : Nat) :
    asList? read room (.array (as.map write)) = some bs ↔
      as = bs ∧ (array (as.map write)).depth ≤ room ∧ ∀ a ∈ as, fits a := by
  cases room with
  | zero => simp [asList?]
  | succ room =>
    rw [asList?, mapM_readsBack h, depth_array_le_succ, List.forall_mem_map, ← forall₂_and]

end BannerGen.Json
