import BannerGen.FontAttribute.Expansion
import BannerGen.Proofs.Tokens

/-!
# What the font attribute accepts

An attribute makes a function a font exactly if its arguments are well-formed (`NamesFont`), a font
can be made of the function (`Signature.IsRenderer`), and the name of the font is not empty
(`expand_eq_ok_iff`). Arguments that give the same name come to the same (`replacement_congr`), and
so do no arguments and the name of the function (`replacement_nil`). This holds however functions
are read.
-/

namespace BannerGen.FontAttribute

variable {read : List Token → Except SyntaxError FunctionItem}
variable {arguments item : List Token} {f : FunctionItem}

/-- A font can be made of functions with this signature. -/
structure Signature.IsRenderer (s : Signature) : Prop where
  /-- They are not asynchronous. -/
  isAsync_eq : s.isAsync = false
  /-- They have no generic parameters. -/
  isGeneric_eq : s.isGeneric = false
  /-- They have one parameter, which is not a receiver. -/
  parameters_eq : s.parameters = [.typed]
  /-- They have a return type. -/
  hasReturnType_eq : s.hasReturnType = true

/-- The well-formed arguments of an attribute, and the name that they give to a font. -/
inductive NamesFont : List Token → Option String → Prop where
  /-- No arguments give no name. -/
  | nothing : NamesFont [] none
  /-- The name is all that is visible. -/
  | text {ts : List Token} {s : String} : Token.visible ts = [.text s] → NamesFont ts (some s)
  /-- The name comes after the word `name` and a mark. -/
  | named {ts : List Token} {isJoint : Bool} {s : String} :
    Token.Spells ts [.word "name", .mark '=' isJoint, .text s] → NamesFont ts (some s)

theorem givenName_eq_ok_iff {ts : List Token} {s : String} :
    givenName ts = .ok s ↔ Token.Spells ts [.text s] := by
  simp only [Token.spells_cons_iff, Token.spells_nil_iff, exists_eq_right]
  constructor
  · intro h
    unfold givenName at h
    split at h
    next hnext =>
      cases h
      exact hnext
    · cases h
    · cases h
  · intro h
    rw [givenName, h]
    rfl

theorem NamesFont.of_fontName? {name? : Option String} (h : fontName? arguments = .ok name?) :
    NamesFont arguments name? := by
  unfold fontName? at h
  split at h
  next hnone =>
    cases h
    rw [List.isEmpty_iff.mp hnone]
    exact .nothing
  split at h
  next s rest hnext =>
    split at h
    next hrest =>
      cases h
      exact .text (Token.visible_eq_text_iff.mpr ⟨rest, hnext, List.isEmpty_iff.mp hrest⟩)
    · cases h
  next isRaw word rest hnext =>
    split at h
    · cases h
    split at h
    · cases h
    next hname =>
      -- Only the word `name` gets here, and only if it is not raw.
      obtain ⟨rfl, rfl⟩ : isRaw = false ∧ word = "name" := by simpa using hname
      split at h
      next isJoint given hmark =>
        cases hgiven : givenName given with
        | error e =>
          rw [hgiven] at h
          cases h
        | ok s =>
          rw [hgiven] at h
          cases h
          have hspells := givenName_eq_ok_iff.mp hgiven
          exact .named (Token.spells_cons_iff.mpr
            ⟨rest, hnext, Token.spells_cons_iff.mpr ⟨given, hmark, hspells⟩⟩)
      · cases h
  · cases h

theorem isEmpty_eq_false_of_next? {q : Token × List Token}
    (h : Token.next? arguments = some q) : arguments.isEmpty = false := by
  cases arguments with
  | nil => cases h
  | cons t ts => rfl

/-- The arguments that are taken are those that are well-formed. -/
theorem fontName?_eq_ok_iff {name? : Option String} :
    fontName? arguments = .ok name? ↔ NamesFont arguments name? := by
  refine ⟨.of_fontName?, ?_⟩
  intro h
  cases h with
  | nothing => rfl
  | text h =>
    obtain ⟨rest, hnext, hrest⟩ := Token.visible_eq_text_iff.mp h
    simp only [fontName?, isEmpty_eq_false_of_next? hnext, hnext, hrest]
    rfl
  | named h =>
    obtain ⟨rest, hnext, h⟩ := Token.spells_cons_iff.mp h
    obtain ⟨given, hmark, h⟩ := Token.spells_cons_iff.mp h
    simp only [fontName?, isEmpty_eq_false_of_next? hnext, hnext, Token.word, hmark,
      givenName_eq_ok_iff.mpr h]
    rfl

/-- The signatures that are taken are those that a font can be made of. -/
theorem Signature.check_eq_ok_iff {s : Signature} : s.check = .ok () ↔ s.IsRenderer := by
  constructor
  · intro h
    unfold Signature.check at h
    split at h
    · cases h
    next hasync =>
    split at h
    · cases h
    next hgeneric =>
    split at h
    · cases h
    next hlength =>
    split at h
    · cases h
    next hreceiver =>
    split at h
    · cases h
    next hreturns =>
    have hone : s.parameters = [.typed] := by
      obtain ⟨parameter, hparameter⟩ := List.length_eq_one_iff.mp (not_not.mp hlength)
      cases parameter with
      | receiver => exact absurd hparameter hreceiver
      | typed => exact hparameter
    exact ⟨by simpa using hasync, by simpa using hgeneric, hone, by simpa using hreturns⟩
  · rintro ⟨hasync, hgeneric, hparameters, hreturns⟩
    simp only [Signature.check, hasync, hgeneric, hparameters, hreturns]
    rfl

/-- The items that a function and a name for the font expand to. -/
def fontItems (f : FunctionItem) (fontName : String) : List ExpandedItem :=
  [.function f, .descriptor (descriptorName f) fontName f.signature.name.spelling,
    .registration (descriptorName f)]

/-- An attribute on a function expands to items exactly if it is well-formed, a font can be made of
the function, and the name of the font is not empty. -/
theorem expand_eq_ok_iff {items : List ExpandedItem} :
    expand arguments f = .ok items ↔ ∃ name?, NamesFont arguments name? ∧
      f.signature.IsRenderer ∧ name?.getD f.signature.name.spelling ≠ "" ∧
      items = fontItems f (name?.getD f.signature.name.spelling) := by
  simp only [← fontName?_eq_ok_iff, ← Signature.check_eq_ok_iff]
  unfold expand
  cases hgiven : fontName? arguments with
  | error e => simp [bind, Except.bind]
  | ok name? =>
    cases hcheck : f.signature.check with
    | error e => simp [bind, Except.bind]
    | ok _ =>
      by_cases hempty : name?.getD f.signature.name.spelling = ""
      · simp [bind, Except.bind, hempty]
      · simp only [bind, Except.bind, hempty, ↓reduceIte, Except.ok.injEq, ne_eq, true_and,
          exists_eq_left', not_false_eq_true]
        exact ⟨fun h => (Except.ok.inj h).symm, fun h => congrArg Except.ok h.symm⟩

/-! ### In place of the attribute -/

theorem expandTokens_of_ok (h : read item = .ok f) (arguments : List Token) :
    expandTokens read arguments item = expand arguments f := by
  rw [expandTokens, h]

theorem replacement_of_ok {items : List ExpandedItem}
    (h : expandTokens read arguments item = .ok items) :
    replacement read arguments item = items.map .item := by
  rw [replacement, h]

theorem replacement_of_error {e : Refusal} (h : expandTokens read arguments item = .error e) :
    replacement read arguments item = [.compileError (toString e)] := by
  rw [replacement, h]

/-- There is no error exactly if the attribute expands to items. -/
theorem compileError_not_mem_iff :
    (∀ m, .compileError m ∉ replacement read arguments item) ↔
      ∃ items, expandTokens read arguments item = .ok items := by
  cases h : expandTokens read arguments item with
  | error e => simp [replacement_of_error h]
  | ok items => simp [replacement_of_ok h]

/-- A name that is not empty is not empty as it is written. -/
theorem FunctionName.spelling_ne_empty {n : FunctionName} (h : n.plain ≠ "") : n.spelling ≠ "" := by
  unfold FunctionName.spelling
  split
  · simp
  · exact h

/-- Only the name that arguments give to a font matters. -/
theorem replacement_congr {name? : Option String} {arguments' : List Token}
    (h : NamesFont arguments name?) (h' : NamesFont arguments' name?) :
    replacement read arguments item = replacement read arguments' item := by
  have hsame : ∀ f, expand arguments f = expand arguments' f := fun f => by
    rw [expand, expand, fontName?_eq_ok_iff.mpr h, fontName?_eq_ok_iff.mpr h']
  simp only [replacement, expandTokens, hsame]

/-- Without arguments, the font has the name of the function. -/
theorem replacement_nil (h : read item = .ok f) :
    replacement read [] item = replacement read [.text f.signature.name.spelling] item := by
  have hsame : expand [] f = expand [.text f.signature.name.spelling] f := by
    rw [expand, expand, fontName?_eq_ok_iff.mpr .nothing, fontName?_eq_ok_iff.mpr (.text rfl)]
    rfl
  rw [replacement, replacement, expandTokens_of_ok h, expandTokens_of_ok h, hsame]

/-- An error stands alone. -/
theorem replacement_of_mem {m : String} (h : .compileError m ∈ replacement read arguments item) :
    replacement read arguments item = [.compileError m] := by
  cases hexpand : expandTokens read arguments item with
  | error e =>
    rw [replacement_of_error hexpand] at h ⊢
    rw [List.mem_singleton.mp h]
  | ok items =>
    rw [replacement_of_ok hexpand, List.mem_map] at h
    obtain ⟨_, _, heq⟩ := h
    cases heq

/-- What is known of a function that tokens form, from what can be computed of it. -/
theorem exists_function {α : Type} {g : FunctionItem → α} {a : α}
    (h : (FunctionItem.ofTokens item).toOption.map g = some a) :
    ∃ f, FunctionItem.ofTokens item = .ok f ∧ g f = a := by
  cases hf : FunctionItem.ofTokens item with
  | error e =>
    rw [hf] at h
    cases h
  | ok f =>
    rw [hf] at h
    exact ⟨f, rfl, Option.some.inj h⟩

/-- The attribute does what its grammar says, however functions are read. There is no error exactly
if a font can be made of the function and the arguments are none, a text that is not empty, or the
word `name`, the mark `=` and such a text. Then the function comes first, as it was read and is
written again, and after it the function that describes the font under its name and the registration
of that. Arguments that give the same text come to the same for all tokens, and so do no arguments
and the name of the function. If there is an error, then nothing else.

A function that is read by the grammar keeps its tokens, unless some of them are noted to be written
in another form. -/
theorem replacement_follows_grammar (read : List Token → Except SyntaxError FunctionItem)
    (arguments item : List Token) :
    (∀ f, read item = .ok f → f.signature.name.plain ≠ "" →
      ((∀ m, .compileError m ∉ replacement read arguments item) ↔ f.signature.IsRenderer ∧
        (arguments = [] ∨ ∃ s, s ≠ "" ∧ (Token.visible arguments = [.text s] ∨
          ∃ isJoint, Token.Spells arguments [.word "name", .mark '=' isJoint, .text s])))) ∧
    (∀ f, read item = .ok f → (∀ m, .compileError m ∉ replacement read arguments item) →
      ∃ name?, NamesFont arguments name? ∧
        replacement read arguments item = [.item (.function f),
          .item (.descriptor (descriptorName f) (name?.getD f.signature.name.spelling)
            f.signature.name.spelling),
          .item (.registration (descriptorName f))]) ∧
    (∀ f, FunctionItem.ofTokens item = .ok f → f.rewritings = [] →
      f.tokens = Token.visible item) ∧
    (∀ s arguments', NamesFont arguments (some s) → NamesFont arguments' (some s) →
      replacement read arguments item = replacement read arguments' item) ∧
    (∀ f, read item = .ok f →
      replacement read [] item = replacement read [.text f.signature.name.spelling] item) ∧
    ∀ m, .compileError m ∈ replacement read arguments item →
      replacement read arguments item = [.compileError m] := by
  refine ⟨?_, ?_, fun f => FunctionItem.tokens_eq, fun s arguments' => replacement_congr,
    fun f => replacement_nil, fun m => replacement_of_mem⟩
  · intro f hf hplain
    have hname := FunctionName.spelling_ne_empty hplain
    simp only [compileError_not_mem_iff, expandTokens_of_ok hf, expand_eq_ok_iff]
    constructor
    -- Only without arguments the name is not given, and then it is that of the function.
    · rintro ⟨items, name?, hgives, hrenderer, hne, -⟩
      refine ⟨hrenderer, ?_⟩
      cases hgives with
      | nothing => exact .inl rfl
      | text h => exact .inr ⟨_, hne, .inl h⟩
      | named h => exact .inr ⟨_, hne, .inr ⟨_, h⟩⟩
    · rintro ⟨hrenderer, rfl | ⟨s, hne, h | ⟨isJoint, h⟩⟩⟩
      · exact ⟨_, none, .nothing, hrenderer, hname, rfl⟩
      · exact ⟨_, some s, .text h, hrenderer, hne, rfl⟩
      · exact ⟨_, some s, .named h, hrenderer, hne, rfl⟩
  · intro f hf herror
    obtain ⟨items, hitems⟩ := compileError_not_mem_iff.mp herror
    obtain ⟨name?, hgives, -, -, rfl⟩ := expand_eq_ok_iff.mp (expandTokens_of_ok hf _ ▸ hitems)
    exact ⟨name?, hgives, replacement_of_ok hitems⟩

/-- The attribute `name = "Big Money"` on a function with a raw name, where the text comes between
invisible delimiters. -/
theorem replacement_follows_grammar_named :
    let arguments : List Token :=
      [.word "name", .mark '=' false, .invisible [.text "Big Money"]]
    ∃ item f, tokens? "fn r#box(t: &str) -> String \x7b t \x7d" = some item ∧
      FunctionItem.ofTokens item = .ok f ∧ f.signature.name.plain ≠ "" ∧
      f.signature.IsRenderer ∧ f.rewritings = [] ∧ f.tokens = Token.visible item ∧
      replacement FunctionItem.ofTokens arguments item = [.item (.function f),
        .item (.descriptor "__box_figgle_font" "Big Money" "r#box"),
        .item (.registration "__box_figgle_font")] := by
  intro arguments
  have hcomputed : ((tokens? "fn r#box(t: &str) -> String \x7b t \x7d").bind fun item =>
      (FunctionItem.ofTokens item).toOption.map fun f => (f.signature, f.rewritings)) =
        some ({ name := ⟨true, "box"⟩, parameters := [.typed] }, []) := by
    decide +kernel
  obtain ⟨item, htokens, hitem⟩ := Option.bind_eq_some_iff.mp hcomputed
  obtain ⟨f, hf, hknown⟩ := exists_function hitem
  obtain ⟨hsignature, hrewritings⟩ := Prod.mk.inj hknown
  have hname := FunctionItem.plain_ne_empty (isProper_of_tokens? htokens) hf
  have hrenderer : f.signature.IsRenderer := by
    rw [hsignature]
    exact ⟨rfl, rfl, rfl, rfl⟩
  have hspells : Token.Spells arguments
      [.word "name", .mark '=' false, .text "Big Money"] :=
    .visible nofun (.visible nofun (.invisible (.visible nofun .nil)))
  obtain ⟨haccepts, hitems, hkeeps, -⟩ :=
    replacement_follows_grammar FunctionItem.ofTokens arguments item
  have hnone := (haccepts f hf hname).mpr
    ⟨hrenderer, .inr ⟨"Big Money", by decide, .inr ⟨false, hspells⟩⟩⟩
  obtain ⟨name?, hgives, heq⟩ := hitems f hf hnone
  obtain rfl : some "Big Money" = name? :=
    Except.ok.inj ((fontName?_eq_ok_iff.mpr (.named hspells)).symm.trans
      (fontName?_eq_ok_iff.mpr hgives))
  have hdescriptor : descriptorName f = "__box_figgle_font" := by
    rw [descriptorName, hsignature]
    decide
  have hspelling : f.signature.name.spelling = "r#box" := by
    rw [hsignature]
    decide
  rw [hdescriptor, hspelling] at heq
  exact ⟨item, f, htokens, hf, hname, hrenderer, hrewritings, hkeeps f hf hrewritings, heq⟩

/-- A function is written again without an empty list of generic parameters, so it is not always
kept token by token: the attribute `"Big Money"` on
`fn empty_generics<>(a: &str) -> String { String::new() }`. -/
theorem replacement_drops_empty_generics :
    let item : List Token := [.word "fn", .word "empty_generics", .mark '<' true, .mark '>' false,
      .group .paren [.word "a", .mark ':' false, .mark '&' false, .word "str"],
      .mark '-' true, .mark '>' false, .word "String",
      .group .brace
        [.word "String", .mark ':' true, .mark ':' false, .word "new", .group .paren []]]
    ∃ f rest,
      replacement FunctionItem.ofTokens [.text "Big Money"] item = .item (.function f) :: rest ∧
      (∀ m, .compileError m ∉ replacement FunctionItem.ofTokens [.text "Big Money"] item) ∧
      f.rewritings = [.emptyList] ∧ f.tokens.length + 2 = item.length ∧ f.tokens ≠ item := by
  intro item
  obtain ⟨f, hf, hknown⟩ : ∃ f, FunctionItem.ofTokens item = .ok f ∧
      (f.signature, f.tokens.length, f.rewritings) =
        ({ name := ⟨false, "empty_generics"⟩, parameters := [.typed] }, 7, [.emptyList]) :=
    exists_function (by decide +kernel)
  obtain ⟨hsignature, hknown⟩ := Prod.mk.inj hknown
  obtain ⟨hlength, hrewritings⟩ := Prod.mk.inj hknown
  have hrenderer : f.signature.IsRenderer := by
    rw [hsignature]
    exact ⟨rfl, rfl, rfl, rfl⟩
  have hexpand : expandTokens FunctionItem.ofTokens [.text "Big Money"] item =
      .ok (fontItems f "Big Money") := by
    rw [expandTokens_of_ok hf, expand_eq_ok_iff]
    exact ⟨some "Big Money", .text rfl, hrenderer, (by decide : "Big Money" ≠ ""), rfl⟩
  refine ⟨f, _, replacement_of_ok hexpand, ?_, hrewritings, ?_, ?_⟩
  · exact compileError_not_mem_iff.mpr ⟨_, hexpand⟩
  · rw [hlength]
    rfl
  · intro heq
    rw [heq] at hlength
    cases hlength

end BannerGen.FontAttribute
