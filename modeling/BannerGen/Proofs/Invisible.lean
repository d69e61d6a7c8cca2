import BannerGen.FontAttribute.Grammar.Rules

/-!
# Invisible delimiters

A row that starts with invisible delimiters is read as if what stands between them came first
(`visible_invisible_cons`, `next?_invisible_cons`). With fewer delimiters at each step, this is an
induction on rows (`row_induction`), by which the tokens that are found one after another are those
that the row spells (`spells_cons_iff`).
-/

namespace BannerGen.FontAttribute.Token

variable {t u : Token} {ts us rest : List Token}

/-- A token that is no pair of invisible delimiters. -/
def IsVisible (t : Token) : Prop := ∀ inner, t ≠ .invisible inner

/-- The tokens `ts` are the tokens `us`, but for invisible delimiters that open before one of
these. -/
inductive Spells : List Token → List Token → Prop where
  /-- No tokens are no tokens. -/
  | nil : Spells [] []
  /-- A visible token stands for itself. -/
  | visible {t : Token} {ts us : List Token} : t.IsVisible → Spells ts us →
    Spells (t :: ts) (t :: us)
  /-- Invisible delimiters that open before a token do not matter. -/
  | invisible {inner ts us : List Token} {u : Token} : Spells (inner ++ ts) (u :: us) →
    Spells (.invisible inner :: ts) (u :: us)

theorem sizes_append (ts us : List Token) :
    size.sizes (ts ++ us) = size.sizes ts + size.sizes us := by
  induction ts with
  | nil => simp [size.sizes]
  | cons t ts ih => simp only [List.cons_append, size.sizes, ih, Nat.add_assoc]

/-- Invisible delimiters at the beginning of a row can be opened until a visible token comes
first. -/
@[elab_as_elim]
theorem row_induction {motive : List Token → Prop} (nil : motive [])
    (visible : ∀ t ts, t.IsVisible → motive ts → motive (t :: ts))
    (invisible : ∀ inner ts, motive (inner ++ ts) → motive (.invisible inner :: ts))
    (ts : List Token) : motive ts := by
  induction hn : size.sizes ts using Nat.strongRecOn generalizing ts with
  | ind n ih =>
    cases ts with
    | nil => exact nil
    | cons t ts =>
      -- A pair of delimiters counts too, so it is left out where it is opened.
      have hinvisible (inner : List Token) (ht : t = .invisible inner) : motive (t :: ts) := by
        subst ht
        refine invisible inner ts (ih _ ?_ _ rfl)
        rw [sizes_append, ← hn, size.sizes, size]
        omega
      have hvisible (ht : t.IsVisible) (hpos : 0 < t.size) : motive (t :: ts) := by
        refine visible t ts ht (ih _ ?_ _ rfl)
        rw [← hn, size.sizes]
        omega
      cases t with
      | invisible inner => exact hinvisible inner rfl
      | group d inner => exact hvisible nofun (by rw [size]; omega)
      | _ => exact hvisible nofun Nat.one_pos

/-! ### The visible tokens -/

theorem visible_eq_flatMap (ts : List Token) : visible ts = ts.flatMap visibleIn := by
  induction ts with
  | nil => rw [visible, List.flatMap_nil]
  | cons t ts ih => rw [visible, ih, List.flatMap_cons]

theorem visible_append (ts us : List Token) : visible (ts ++ us) = visible ts ++ visible us := by
  simp only [visible_eq_flatMap, List.flatMap_append]

theorem visible_invisible_cons (inner ts : List Token) :
    visible (.invisible inner :: ts) = visible (inner ++ ts) := by
  rw [visible, visibleIn, visible_append]

/-! ### The first visible token -/

theorem next?_visible_cons (ht : t.IsVisible) (ts : List Token) :
    next? (t :: ts) = some (t, ts) := by
  have hnext : nextIn? t = some (t, []) := by
    cases t with
    | invisible inner => exact absurd rfl (ht inner)
    | _ => rw [nextIn?]; nofun
  rw [next?, hnext]
  rfl

theorem next?_append (ts us : List Token) :
    next? (ts ++ us) = (next? ts).elim (next? us) fun q => some (q.1, q.2 ++ us) := by
  induction ts with
  | nil => rw [List.nil_append, next?, Option.elim_none]
  | cons t ts ih =>
    rw [List.cons_append, next?, next?]
    cases nextIn? t with
    | none => exact ih
    | some q => simp only [Option.elim_some, List.append_assoc]

theorem next?_invisible_cons (inner ts : List Token) :
    next? (.invisible inner :: ts) = next? (inner ++ ts) := by
  rw [next?, nextIn?, next?_append]
  cases next? inner <;> rfl

theorem isVisible_of_next? (h : next? ts = some (t, rest)) : t.IsVisible := by
  induction ts using row_induction with
  | nil => cases h
  | visible u ts hu ih =>
    rw [next?_visible_cons hu] at h
    cases h
    exact hu
  | invisible inner ts ih =>
    rw [next?_invisible_cons] at h
    exact ih h

theorem visible_of_next? (h : next? ts = some (t, rest)) :
    visible ts = visibleIn t ++ visible rest := by
  induction ts using row_induction with
  | nil => cases h
  | visible u ts hu ih =>
    rw [next?_visible_cons hu] at h
    cases h
    rw [visible]
  | invisible inner ts ih =>
    rw [next?_invisible_cons] at h
    rw [visible_invisible_cons, ih h]

theorem visible_of_next?_eq_none (h : next? ts = none) : visible ts = [] := by
  induction ts using row_induction with
  | nil => rw [visible]
  | visible u ts hu ih =>
    rw [next?_visible_cons hu] at h
    cases h
  | invisible inner ts ih =>
    rw [next?_invisible_cons] at h
    rw [visible_invisible_cons, ih h]

/-- A text is all that is visible exactly if it comes first and nothing visible comes after it. -/
theorem visible_eq_text_iff {s : String} :
    visible ts = [.text s] ↔ ∃ rest, next? ts = some (.text s, rest) ∧ visible rest = [] := by
  constructor
  · intro h
    cases hnext : next? ts with
    | none =>
      rw [visible_of_next?_eq_none hnext] at h
      cases h
    | some q =>
      obtain ⟨t, rest⟩ := q
      rw [visible_of_next? hnext] at h
      have ht := isVisible_of_next? hnext
      cases t with
      | invisible inner => exact absurd rfl (ht inner)
      | text s' =>
        obtain ⟨hs, hrest⟩ := List.cons.inj h
        exact ⟨rest, by rw [hs], hrest⟩
      | _ => cases h
  · rintro ⟨rest, hnext, hrest⟩
    rw [visible_of_next? hnext, hrest, visibleIn, List.append_nil]
    all_goals nofun

/-! ### One token after another -/

theorem spells_nil_iff : Spells ts [] ↔ ts = [] := by
  constructor
  · rintro ⟨⟩
    rfl
  · rintro rfl
    exact .nil

/-- The tokens that a row spells are found one after another. -/
theorem spells_cons_iff :
    Spells ts (u :: us) ↔ ∃ rest, next? ts = some (u, rest) ∧ Spells rest us := by
  induction ts using row_induction with
  | nil => exact iff_of_false nofun nofun
  | visible t ts ht ih =>
    rw [next?_visible_cons ht]
    constructor
    · intro h
      cases h with
      | visible _ h => exact ⟨ts, rfl, h⟩
      | invisible _ => exact absurd rfl (ht _)
    · rintro ⟨_, ⟨⟩, h⟩
      exact .visible ht h
  | invisible inner ts ih =>
    rw [next?_invisible_cons, ← ih]
    constructor
    · intro h
      cases h with
      | visible ht _ => exact absurd rfl (ht inner)
      | invisible h => exact h
    · exact .invisible

end BannerGen.FontAttribute.Token
