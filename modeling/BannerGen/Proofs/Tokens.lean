import BannerGen.FontAttribute.Function
import BannerGen.Proofs.Ensures
import BannerGen.Proofs.Invisible

/-!
# Names among tokens

No name in a text is empty, so the tokens of a text contain no empty name (`isProper_of_tokens?`).
The name of a function is one of the tokens that the function is read from
(`FunctionItem.name_mem`): it is taken from what is left of these, and what is read after it does
not change it. So no function in a text has an empty name.

A function keeps its tokens, unless some are written in another form (`FunctionItem.tokens_eq`).
-/

namespace BannerGen

open Text (Reader)

/-! ### Readers -/

namespace Text.Reader

variable {α β : Type} {p : α → Prop}

/-- Whatever a reader gives satisfies `p`. -/
theorem ensures_iff {r : Reader α} :
    Ensures p r ↔ ∀ cs a rest, r cs = some (a, rest) → p a := by
  rw [ensures_stateT_iff]
  refine forall_congr' fun cs => ?_
  rw [ensures_option_iff]
  exact ⟨fun h a rest heq => h (a, rest) heq, fun h q heq => h q.1 q.2 heq⟩

/-- An alternative gives what one of two readers gives. -/
theorem ensures_orElse {r s : Reader α} (hr : Ensures p r) (hs : Ensures p s) :
    Ensures p (r <|> s) := by
  rw [ensures_iff] at hr hs ⊢
  intro cs a rest h
  -- The second reader starts where the first one started, and only if that one refused.
  cases hfirst : r cs with
  | none =>
    have heq : (r <|> s) cs = s cs := by
      show (r cs <|> s cs) = s cs
      rw [hfirst]
      rfl
    exact hs cs a rest (heq ▸ h)
  | some first =>
    have heq : (r <|> s) cs = some first := by
      show (r cs <|> s cs) = some first
      rw [hfirst]
      rfl
    rw [heq] at h
    cases h
    exact hr cs a rest hfirst

theorem ensures_ofOption {o : Option α} (h : ∀ a, o = some a → p a) : Ensures p (ofOption o) := by
  rw [ensures_iff]
  intro cs a rest heq
  obtain ⟨b, hb, hpair⟩ := Option.map_eq_some_iff.mp heq
  cases hpair
  exact h a hb

theorem forall_mem_many {r : Reader α} (h : Ensures p r) (cs : List Char) :
    ∀ a ∈ (many r cs).1, p a := by
  rw [ensures_iff] at h
  fun_induction many r cs with
  | case1 cs a after hread hshorter as later hlater ih =>
    rw [hlater] at ih
    exact List.forall_mem_cons.mpr ⟨h cs a after hread, ih⟩
  | case2 => simp
  | case3 => simp

/-- What is read over and over again satisfies what is read once satisfies. -/
theorem ensures_repeated {r : Reader α} (h : Ensures p r) :
    Ensures (fun l => ∀ a ∈ l, p a) (repeated r) := by
  rw [ensures_iff]
  intro cs l rest heq
  have hl : many r cs = (l, rest) := Option.some.inj heq
  have hmany := forall_mem_many h cs
  rwa [hl] at hmany

/-- The value of a whole text is what the reader gives. -/
theorem of_readAll? {r : Reader α} (h : Ensures p r) {cs : List Char} {a : α}
    (heq : readAll? r cs = some a) : p a := by
  rw [ensures_iff] at h
  unfold readAll? at heq
  split at heq
  next b hread =>
    cases heq
    exact h cs a [] hread
  next => cases heq

end Text.Reader

namespace FontAttribute

open Text.Reader

/-! ### The names of a text -/

/-- A token that is a name has at least one character, and so do those between invisible
delimiters. -/
def Token.IsProper (t : Token) : Prop := ∀ isRaw, .name isRaw "" ∉ visibleIn t

/-- What is read in one step has no empty names. -/
def Lexeme.IsProper (l : Lexeme) : Prop := ∀ ts, l = .tokens ts → ∀ t ∈ ts, t.IsProper

namespace Token

theorem isProper_name {isRaw : Bool} {s : String} (h : s ≠ "") : (name isRaw s).IsProper := by
  simp [IsProper, visibleIn, h.symm]

theorem isProper_text (s : String) : (text s).IsProper := by simp [IsProper, visibleIn]

theorem isProper_literal (s : String) : (literal s).IsProper := by simp [IsProper, visibleIn]

theorem isProper_mark (c : Char) (isJoint : Bool) : (mark c isJoint).IsProper := by
  simp [IsProper, visibleIn]

theorem isProper_group (d : Delimiter) (inner : List Token) : (group d inner).IsProper := by
  simp [IsProper, visibleIn]

theorem name_notMem_visible {ts : List Token} (h : ∀ t ∈ ts, t.IsProper) (isRaw : Bool) :
    .name isRaw "" ∉ visible ts := by
  rw [visible_eq_flatMap, List.mem_flatMap]
  rintro ⟨t, ht, hmem⟩
  exact h t ht isRaw hmem

end Token

namespace Lexeme

theorem isProper_tokens {ts : List Token} (h : ∀ t ∈ ts, t.IsProper) : (tokens ts).IsProper := by
  rintro _ ⟨⟩
  exact h

theorem isProper_singleton {t : Token} (h : t.IsProper) : (tokens [t]).IsProper :=
  isProper_tokens (List.forall_mem_singleton.mpr h)

/-- A name has at least the character that it starts with. -/
theorem ensures_nameChars : Ensures (fun cs => String.ofList cs ≠ "") nameChars := by
  refine (Ensures.trivially _).bind fun first _ => ?_
  refine (Ensures.trivially _).bind fun others _ => .pure ?_
  simp

theorem ensures_anyName : Ensures Token.IsProper anyName := by
  refine ensures_orElse ?_ ?_
  · refine (Ensures.trivially _).bind fun _ _ => ?_
    refine ensures_nameChars.bind fun cs hcs => ensures_ofOption ?_
    intro t ht
    split at ht
    · cases ht
    · cases ht
      exact Token.isProper_name hcs
  · refine (Ensures.trivially _).bind fun _ _ => ?_
    exact ensures_nameChars.bind fun cs hcs => .pure (Token.isProper_name hcs)

theorem ensures_plainName : Ensures Token.IsProper plainName := by
  have hany := ensures_iff.mp ensures_anyName
  rw [ensures_iff]
  intro cs t rest h
  unfold plainName at h
  split at h
  · cases h
  · exact hany cs t rest h

theorem ensures_spelled : Ensures Token.IsProper spelled := by
  rw [ensures_iff]
  intro cs t rest h
  obtain ⟨_, -, heq⟩ := Option.map_eq_some_iff.mp h
  cases heq
  exact Token.isProper_literal _

theorem ensures_lifetimeMark : Ensures Token.IsProper lifetimeMark := by
  refine (Ensures.trivially _).bind fun _ _ => ?_
  exact (Ensures.trivially _).bind fun _ _ => .pure (Token.isProper_mark _ _)

theorem ensures_plainMark : Ensures Token.IsProper plainMark := by
  refine (Ensures.trivially _).bind fun c _ => ?_
  refine (Ensures.trivially _).bind fun joint _ => ensures_ofOption ?_
  intro t ht
  split at ht
  · cases ht
  · cases ht
    exact Token.isProper_mark _ _

theorem ensures_leaf : Ensures Token.IsProper leaf := by
  refine ensures_orElse ?_ (ensures_orElse ensures_spelled (ensures_orElse ensures_lifetimeMark
    (ensures_orElse ensures_plainMark ensures_plainName)))
  exact (Ensures.trivially _).map fun cs _ => Token.isProper_text _

/-- A comment that documents something stands for marks and a pair of brackets. -/
theorem ensures_documenting : Ensures (fun ts => ∀ t ∈ ts, t.IsProper) documenting := by
  refine (Ensures.trivially _).bind fun r _ => ensures_ofOption ?_
  intro ts hts
  split at hts
  · cases hts
    cases r.1 <;> simp [documentation, Token.IsProper, Token.visibleIn]
  · cases hts

theorem ensures_error : Ensures Token.IsProper error :=
  (Ensures.trivially _).bind fun _ _ => .pure (Token.isProper_literal _)

theorem ensures_delimiter : Ensures Lexeme.IsProper delimiter := by
  refine (Ensures.trivially _).bind fun c _ => ?_
  split
  case h_7 => exact ensures_iff.mpr nofun
  all_goals exact .pure nofun

theorem ensures_lexeme : Ensures Lexeme.IsProper lexeme := by
  refine (Ensures.trivially _).bind fun _ _ => ?_
  refine ensures_orElse (ensures_documenting.map fun ts => isProper_tokens) ?_
  refine ensures_orElse (ensures_error.map fun t => isProper_singleton) ?_
  exact ensures_orElse ensures_delimiter (ensures_leaf.map fun t => isProper_singleton)

theorem isProper_of_read? {s : String} {ls : List Lexeme} (h : read? s = some ls) :
    ∀ l ∈ ls, l.IsProper := by
  refine of_readAll? (p := fun ls => ∀ l ∈ ls, l.IsProper) ?_ h
  refine (Ensures.trivially _).bind fun _ _ => ?_
  refine (ensures_repeated ensures_lexeme).bind fun ls hls => ?_
  exact (Ensures.trivially _).bind fun _ _ => .pure hls

end Lexeme

/-- No token that was read so far is an empty name. -/
def Nesting.IsProper (n : Nesting) : Prop :=
  (∀ t ∈ n.current, t.IsProper) ∧ ∀ before ∈ n.pending, ∀ t ∈ before.2, t.IsProper

theorem Nesting.IsProper.add {n m : Nesting} {l : Lexeme} (hn : n.IsProper) (hl : l.IsProper)
    (h : n.add l = some m) : m.IsProper := by
  obtain ⟨hcurrent, hpending⟩ := hn
  cases l with
  | tokens ts =>
    cases h
    refine ⟨fun t ht => ?_, hpending⟩
    rcases List.mem_append.mp ht with ht | ht
    · exact hcurrent t ht
    · exact hl ts rfl t ht
  | opening d =>
    cases h
    exact ⟨nofun, List.forall_mem_cons.mpr ⟨hcurrent, hpending⟩⟩
  | closing d =>
    -- What stands before the opening delimiter is read on, with one more token.
    cases hopen : n.pending with
    | nil => simp [Nesting.add, hopen] at h
    | cons last pending =>
      simp only [Nesting.add, hopen] at h
      rw [hopen] at hpending
      split at h
      · cases h
        obtain ⟨hbefore, hpending⟩ := List.forall_mem_cons.mp hpending
        refine ⟨fun t ht => ?_, hpending⟩
        rcases List.mem_append.mp ht with ht | ht
        · exact hbefore t ht
        · rw [List.mem_singleton.mp ht]
          exact Token.isProper_group _ _
      · cases h

/-- The tokens of a text contain no empty name. -/
theorem isProper_of_tokens? {s : String} {ts : List Token} (h : tokens? s = some ts) :
    ∀ t ∈ ts, t.IsProper := by
  obtain ⟨ls, hread, h⟩ := Option.bind_eq_some_iff.mp h
  obtain ⟨n, hfold, hfinish⟩ := Option.bind_eq_some_iff.mp h
  have hls := Lexeme.isProper_of_read? hread
  have hn : n.IsProper := by
    refine ensures_option_iff.mp (Ensures.foldlM ?_ ?_) n hfold
    · exact ⟨nofun, nofun⟩
    · intro n hn l hl
      exact ensures_option_iff.mpr fun m hm => hn.add (hls l hl) hm
  unfold Nesting.finish? at hfinish
  split at hfinish
  · cases hfinish
    exact hn.1
  · cases hfinish

/-! ### Parsers of tokens -/

namespace Grammar

namespace TokenParser

variable {α β : Type}

theorem bind_apply (p : TokenParser α) (k : α → TokenParser β) (start : List Token)
    (r : Reading start) : (p >>= k) start r = p start r >>= fun q => k q.1 start q.2 := rfl

instance : LawfulMonad TokenParser := by
  refine .mk' _ ?_ ?_ ?_
  · intro α p
    funext start r
    exact bind_pure (p start r)
  · intro α β a k
    rfl
  · intro α β γ p k l
    funext start r
    exact bind_assoc (p start r) _ _

theorem bind_eq_ok_iff {start : List Token} {p : TokenParser α} {k : α → TokenParser β}
    {r t : Reading start} {b : β} :
    (p >>= k) start r = .ok (b, t) ↔ ∃ a s, p start r = .ok (a, s) ∧ k a start s = .ok (b, t) := by
  rw [bind_apply]
  cases p start r with
  | error e => exact iff_of_false nofun nofun
  | ok q =>
    constructor
    · intro h
      exact ⟨q.1, q.2, rfl, h⟩
    · rintro ⟨a, s, ⟨⟩, h⟩
      exact h

/-- What a parser gives satisfies what is ensured of its results. -/
theorem of_ensures {p : TokenParser α} {q : α → Prop} (h : Ensures q p) {start : List Token}
    {r s : Reading start} {a : α} (hp : p start r = .ok (a, s)) : q a := by
  have heq := congrFun (congrFun (h q (fun _ => True) fun a ha => eq_true ha) start) r
  have hmap (f : α → Prop) : (f <$> p) start r = .ok (f a, s) := by
    rw [map_eq_pure_bind]
    exact bind_eq_ok_iff.mpr ⟨a, s, hp, rfl⟩
  rw [hmap, hmap] at heq
  exact of_eq_true (Prod.mk.inj (Except.ok.inj heq)).1

/-- The name that belongs to what `p` gives is one of the tokens that are read. -/
def NamesFrom (name : α → FunctionName) (p : TokenParser α) : Prop :=
  ∀ start r a s, p start r = .ok (a, s) → .name (name a).isRaw (name a).plain ∈ start

/-- What comes before a name may do anything. -/
theorem NamesFrom.after {p : TokenParser α} {k : α → TokenParser β} {name : β → FunctionName}
    (hk : ∀ a, NamesFrom name (k a)) : NamesFrom name (p >>= k) := by
  intro start r b t h
  obtain ⟨a, s, -, hsecond⟩ := bind_eq_ok_iff.mp h
  exact hk a start s b t hsecond

/-- What comes after a name may do anything that keeps the name. -/
theorem NamesFrom.bind {p : TokenParser α} {k : α → TokenParser β} {name : α → FunctionName}
    {name' : β → FunctionName} (hp : NamesFrom name p)
    (hk : ∀ a, Ensures (fun b => name' b = name a) (k a)) : NamesFrom name' (p >>= k) := by
  intro start r b t h
  obtain ⟨a, s, hfirst, hsecond⟩ := bind_eq_ok_iff.mp h
  rw [of_ensures (hk a) hsecond]
  exact hp start r a s hfirst

end TokenParser

/-! ### The name of a function -/

open TokenParser

/-- Where a name does not come next, there is nothing but an error. -/
theorem refuse_name_ne_ok {α : Type} {start : List Token} (r : Reading start)
    (q : α × Reading start) : refuse .name start r ≠ .ok q := by
  intro h
  obtain ⟨ts, _, _, h⟩ := bind_eq_ok_iff.mp h
  cases ts with
  | nil => cases h
  | cons first rest => cases first <;> cases h

/-- The name is taken from what is left, which is an end of the tokens that are read. -/
theorem namesFrom_functionName : NamesFrom id functionName := by
  intro start r n t h
  obtain ⟨ts, _, hremaining, h⟩ := bind_eq_ok_iff.mp h
  obtain ⟨hrest, rfl⟩ := Prod.mk.inj (Except.ok.inj hremaining)
  cases ts with
  | nil => exact absurd h (refuse_name_ne_ok r _)
  | cons first rest =>
    cases first with
    | name isRaw plain =>
      obtain ⟨_, _, _, h⟩ := bind_eq_ok_iff.mp h
      cases h
      exact r.isEnd.subset (hrest ▸ List.mem_cons_self)
    | _ => exact absurd h (refuse_name_ne_ok r _)

theorem namesFrom_signature (g : Grammar) : NamesFrom Signature.name (signature g) := by
  have hany : NamesFrom (fun q => q.1.name) (anySignature g false) := by
    -- The qualifiers and the keyword `fn` come before the name.
    refine .after fun _ => .after fun isAsync => .after fun isUnsafe => .after fun isSafe => ?_
    refine .after fun _ => .after fun _ => ?_
    refine namesFrom_functionName.bind fun name => ?_
    -- From here on the name is known, and only passed on.
    refine (Ensures.trivially _).bind fun isGeneric _ => ?_
    refine (Ensures.trivially _).bind fun q _ => ?_
    refine (Ensures.trivially _).bind fun output _ => ?_
    refine (Ensures.trivially _).bind fun _ _ => ?_
    obtain ⟨parameters, isLeft⟩ := q
    cases isLeft with
    | true => exact (Ensures.trivially _).bind fun _ _ => .pure rfl
    | false => exact .pure rfl
  exact hany.bind fun q => .pure rfl

end Grammar

namespace FunctionItem

open Grammar TokenParser

variable {item : List Token} {f : FunctionItem}

theorem namesFrom_function (g : Grammar) : NamesFrom Signature.name (parser g) := by
  refine .after fun _ => .after fun _ => ?_
  refine (namesFrom_signature g).bind fun s => ?_
  exact (Ensures.trivially _).bind fun _ _ => .pure rfl

/-- A function was read from its visible tokens, up to their end. -/
theorem exists_parser_eq (h : ofTokens item = .ok f) :
    ∃ g, ∃ r : Reading (Token.visible item), parser g _ (.nothing _ none) = .ok (f.signature, r) ∧
      r.rest = [] ∧ r.written.reverse = f.tokens ∧ r.rewritings = f.rewritings := by
  unfold ofTokens at h
  dsimp only at h
  split at h
  next s r hparser =>
    split at h
    · cases h
    · split at h
      next hover =>
        cases h
        exact ⟨_, r, hparser, List.isEmpty_iff.mp hover, rfl, rfl⟩
      · cases h
  next => cases h

/-- The name of a function is one of its visible tokens. -/
theorem name_mem (h : ofTokens item = .ok f) :
    .name f.signature.name.isRaw f.signature.name.plain ∈ Token.visible item := by
  obtain ⟨g, r, hparser, -⟩ := exists_parser_eq h
  exact namesFrom_function g _ _ _ _ hparser

/-- A function that is read from tokens without empty names has a name. -/
theorem plain_ne_empty (hnames : ∀ t ∈ item, t.IsProper) (h : ofTokens item = .ok f) :
    f.signature.name.plain ≠ "" := by
  intro hempty
  refine Token.name_notMem_visible hnames f.signature.name.isRaw ?_
  rw [← hempty]
  exact name_mem h

/-- A function of which nothing is written in another form keeps its visible tokens. -/
theorem tokens_eq (h : ofTokens item = .ok f) (hnone : f.rewritings = []) :
    f.tokens = Token.visible item := by
  obtain ⟨g, r, -, hrest, htokens, hrewritings⟩ := exists_parser_eq h
  have hkept := r.isKept (hrewritings.trans hnone)
  rw [hrest, List.append_nil] at hkept
  rw [← htokens, hkept]

end FunctionItem

end FontAttribute

end BannerGen
