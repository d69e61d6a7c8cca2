import BannerGen.Json.Parser
import BannerGen.Json.Printer
import Mathlib.Tactic.FinCases
import Mathlib.Tactic.IntervalCases

/-!
# Reading back what was written

The text of a JSON value is read as that value, whatever the value is (`Value.parse?_pretty`).

`Value.tokens` stands between the two directions: the text of a value is scanned into its tokens
(`spells_layout`), and the tokens are read as the value (`Value.ofTokens?_tokens`). A numeral has no
closing mark, so its token is complete only when the text ends or goes on with a delimiter. Texts
that `Spells` tokens may end in a numeral; texts that `Closes` tokens may not.
-/

namespace BannerGen.Json

namespace Value

mutual

/-- The tokens of a value. -/
def tokens : Value → List Token
  | .null => [.scalar .null]
  | .bool b => [.scalar (.bool b)]
  | .natural n => [.scalar (.natural n)]
  | .number => [.scalar .number]
  | .string s => [.scalar (.string s)]
  | .array [] => [.openArray, .closeArray]
  | .array (v :: vs) => .openArray :: (tokens v ++ (itemTokens vs ++ [.closeArray]))
  | .object [] => [.openObject, .closeObject]
  | .object ((k, v) :: ms) =>
    .openObject :: .scalar (.string k) :: .colon ::
      (tokens v ++ (memberTokens ms ++ [.closeObject]))

/-- The tokens of the further items of an array. -/
def itemTokens : List Value → List Token
  | [] => []
  | v :: vs => .comma :: (tokens v ++ itemTokens vs)

/-- The tokens of the further members of an object. -/
def memberTokens : List (Option String × Value) → List Token
  | [] => []
  | (k, v) :: ms => .comma :: .scalar (.string k) :: .colon :: (tokens v ++ memberTokens ms)

end

end Value

namespace Token

/-- Whether a numeral ends before the character. -/
def isDelimiter (c : Char) : Bool :=
  isBlank c || c == ',' || c == ']' || c == '\x7d'

/-- Scanned between two tokens, the characters stand for the given tokens if the text ends after
them. -/
def Spells (cs : List Char) (ts : List Token) : Prop :=
  ∀ found, (Scan.run { found } cs).bind Scan.finish = some (found.reverse ++ ts)

/-- Scanned between two tokens, the characters stand for the given tokens, whatever comes after
them. -/
def Closes (cs : List Char) (ts : List Token) : Prop :=
  ∀ found, Scan.run { found } cs = some { found := ts.reverse ++ found }

variable {cs ds : List Char} {ts us : List Token} {c : Char}

/-! ### Texts one after the other -/

theorem Closes.spells (h : Closes cs ts) : Spells cs ts := by
  intro found
  rw [h found, Option.bind_some, Scan.finish, List.reverse_append, List.reverse_reverse]

theorem Closes.append (h : Closes cs ts) (h' : Closes ds us) : Closes (cs ++ ds) (ts ++ us) := by
  intro found
  rw [Scan.run_append, h found, Option.bind_some, h', List.reverse_append, List.append_assoc]

theorem Numeral.push_of_isDelimiter (n : Numeral) (h : isDelimiter c = true) :
    n.push c = none := by
  simp only [isDelimiter, isBlank, Bool.or_eq_true, decide_eq_true_eq, beq_iff_eq] at h
  rcases h with (((((rfl | rfl) | rfl) | rfl) | rfl) | rfl) | rfl
  all_goals cases n <;> rfl

/-- Before a delimiter, a token that could end there has ended. -/
theorem step_of_finish {s : Scan} (h : s.finish = some ts) (hc : isDelimiter c = true) :
    s.step c = Scan.step { found := ts.reverse } c := by
  obtain ⟨mode, found⟩ := s
  cases mode with
  | between =>
    cases h
    rw [List.reverse_reverse]
  | numeral n =>
    -- No delimiter can go on with a numeral, so its token is emitted here as it is at the end.
    obtain ⟨v, hv, rfl⟩ := Option.map_eq_some_iff.mp h
    simp only [Scan.step, n.push_of_isDelimiter hc, hv, Option.bind_some, List.reverse_reverse]
    rfl
  | keyword | literal | escape | unit => cases h

/-- Characters that may end in a numeral can be followed by a text that starts with a
delimiter. -/
theorem Spells.append (h : Spells cs ts) (h' : Closes ds us)
    (hd : ∃ c ∈ ds.head?, isDelimiter c = true) : Closes (cs ++ ds) (ts ++ us) := by
  intro found
  obtain ⟨c, hhead, hc⟩ := hd
  obtain ⟨rest, rfl⟩ := List.head?_eq_some_iff.mp hhead
  obtain ⟨s, hs, hfinish⟩ := Option.bind_eq_some_iff.mp (h found)
  -- At the delimiter the scanner is where it would be had the text ended and started again.
  have hrest := h' (found.reverse ++ ts).reverse
  rw [Scan.run, List.foldlM_cons] at hrest
  rw [Scan.run_append, hs, Option.bind_some, Scan.run, List.foldlM_cons,
    step_of_finish hfinish hc, hrest]
  simp

theorem closes_newline (level : Nat) : Closes (newline level) [] := by
  intro found
  have hspaces : ∀ n, Scan.run { found } (List.replicate n ' ') = some { found } := by
    intro n
    induction n with
    | zero => rfl
    | succ n ih => exact ih
  exact hspaces (2 * level)

/-! ### Numerals -/

/-- The digits of a positive number are read as that number. -/
theorem run_toDigits (found : List Token) {n : Nat} (h : 0 < n) :
    Scan.run { found } (Nat.toDigits 10 n) =
      some { mode := .numeral (.digits false n), found } := by
  induction n using Nat.strongRecOn with
  | ind n ih =>
    by_cases hlt : n < 10
    · interval_cases n <;> rfl
    · -- The last digit is read after the numeral of the others.
      have hdigit : ∀ m, ∀ d < 10, Numeral.push (.digits false m) d.digitChar =
          some (.digits false (10 * m + d)) := by
        intro m d hd
        interval_cases d <;> rfl
      have hsplit := Nat.toDigits_append_toDigits (b := 10) (n := n / 10) (d := n % 10)
        (by decide) (by omega) (by omega)
      rw [Nat.div_add_mod] at hsplit
      have hlast := hdigit (n / 10) (n % 10) (by omega)
      rw [Nat.div_add_mod] at hlast
      rw [← hsplit, Scan.run_append, ih (n / 10) (by omega) (by omega),
        Nat.toDigits_of_lt_base (by omega)]
      simp [Scan.run, Scan.step, hlast]

theorem spells_natural (n : Nat) : Spells (Nat.toDigits 10 n) [.scalar (.natural n)] := by
  intro found
  rcases Nat.eq_zero_or_pos n with rfl | hpos
  · have hzero : Nat.toDigits 10 0 = ['0'] := by decide
    rw [hzero]
    exact congrArg some List.reverse_cons
  · rw [run_toDigits found hpos]
    simp [Scan.finish, Numeral.value?]

/-! ### Strings -/

theorem hexDigit?_hexDigit {d : Nat} (h : d < 16) : Text.hexDigit? (hexDigit d) = some d := by
  interval_cases d <;> rfl

/-- A control character is no surrogate. -/
theorem Literal.pushUnit_toNat (chars : List Char) (h : c.toNat < 0x20) :
    pushUnit { chars := some chars } c.toNat = { chars := some (c :: chars) } := by
  have hhigh : ¬ IsHigh c.toNat := by
    unfold IsHigh
    omega
  have hlow : ¬ IsLow c.toNat := by
    unfold IsLow
    omega
  simp [pushUnit, hhigh, hlow, push]

theorem run_unit (found : List Token) (chars : List Char) (h : c.toNat < 0x20) :
    Scan.run { mode := .literal { chars := some chars }, found }
        (['\\', 'u', '0', '0'] ++ [hexDigit (c.toNat / 16), hexDigit (c.toNat % 16)]) =
      some { mode := .literal { chars := some (c :: chars) }, found } := by
  have hstart : Scan.run { mode := .literal { chars := some chars }, found }
      ['\\', 'u', '0', '0'] = some { mode := .unit { chars := some chars } 2 0, found } := rfl
  have hfirst := hexDigit?_hexDigit (d := c.toNat / 16) (by omega)
  have hsecond := hexDigit?_hexDigit (d := c.toNat % 16) (by omega)
  rw [Scan.run_append, hstart]
  simp [Scan.run, Scan.step, hfirst, hsecond, Nat.div_add_mod, Literal.pushUnit_toNat chars h]

/-- The spelling of a character is read as that character. -/
theorem run_escapeChar (found : List Token) (chars : List Char) (c : Char) :
    Scan.run { mode := .literal { chars := some chars }, found } (escapeChar c) =
      some { mode := .literal { chars := some (c :: chars) }, found } := by
  -- The letters after a backslash first, then the control characters without one.
  by_cases hletter : c ∈ ['"', '\\', '\x08', '\x0c', '\n', '\r', '\t']
  · fin_cases hletter <;> rfl
  · simp only [List.mem_cons, List.not_mem_nil, or_false, not_or] at hletter
    obtain ⟨hquote, hbackslash, h₁, h₂, h₃, h₄, h₅⟩ := hletter
    rw [escapeChar, if_neg hquote, if_neg hbackslash, if_neg h₁, if_neg h₂, if_neg h₃, if_neg h₄,
      if_neg h₅]
    by_cases hcontrol : c.toNat < 0x20
    · rw [if_pos hcontrol]
      exact run_unit found chars hcontrol
    · rw [if_neg hcontrol]
      simp [Scan.run, Scan.step, hquote, hbackslash, hcontrol, Literal.push]

theorem run_flatMap_escapeChar (found : List Token) (chars cs : List Char) :
    Scan.run { mode := .literal { chars := some chars }, found } (cs.flatMap escapeChar) =
      some { mode := .literal { chars := some (cs.reverse ++ chars) }, found } := by
  induction cs generalizing chars with
  | nil => rfl
  | cons c cs ih =>
    rw [List.flatMap_cons, Scan.run_append, run_escapeChar, Option.bind_some, ih]
    simp

/-- The literal of a string is read as that string, also if it has no text. -/
theorem closes_quote (s : Option String) : Closes (quote s) [.scalar (.string s)] := by
  intro found
  cases s with
  | none =>
    -- The surrogate still waits for its partner at the closing quote.
    have hchars : quote none = ['"', '\\', 'u', 'd', '8', '0', '0', '"'] := by decide
    rw [hchars]
    rfl
  | some s =>
    have hchars : quote (some s) = ['"'] ++ (s.toList.flatMap escapeChar ++ ['"']) := rfl
    have hopen : Scan.run { found } ['"'] = some { mode := .literal { chars := some [] }, found } :=
      rfl
    rw [hchars, Scan.run_append, hopen, Option.bind_some, Scan.run_append, run_flatMap_escapeChar]
    simp [Scan.run, Scan.step, Scan.emit, Literal.text?]

end Token

open Token

/-! ### From a value to its text and back to tokens -/

/-- A comma is read with the line feed and the indentation after it. -/
theorem closes_comma (level : Nat) : Closes (',' :: newline level) [.comma] := by
  have hcomma : Closes [','] [.comma] := fun _ => rfl
  exact hcomma.append (closes_newline level)

/-- A key is read with the colon and the space after it. -/
theorem closes_key (k : Option String) :
    Closes (quote k ++ ": ".toList) [.scalar (.string k), .colon] := by
  have hcolon : Closes ": ".toList [.colon] := fun _ => rfl
  exact (closes_quote k).append hcolon

theorem closes_bracket (level : Nat) : Closes (newline level ++ [']']) [.closeArray] := by
  have hbracket : Closes [']'] [.closeArray] := fun _ => rfl
  exact (closes_newline level).append hbracket

theorem closes_brace (level : Nat) : Closes (newline level ++ ['\x7d']) [.closeObject] := by
  have hbrace : Closes ['\x7d'] [.closeObject] := fun _ => rfl
  exact (closes_newline level).append hbrace

namespace Value

theorem head?_layoutItems (level : Nat) (vs : List Value) (rest : List Char) :
    ∃ c ∈ (layoutItems (level + 1) vs ++ (newline level ++ rest)).head?, isDelimiter c = true := by
  cases vs with
  | nil => exact ⟨'\n', by simp [layoutItems, newline], by decide⟩
  | cons v vs => exact ⟨',', by simp [layoutItems], by decide⟩

theorem head?_layoutMembers (level : Nat) (ms : List (Option String × Value))
    (rest : List Char) :
    ∃ c ∈ (layoutMembers (level + 1) ms ++ (newline level ++ rest)).head?,
      isDelimiter c = true := by
  cases ms with
  | nil => exact ⟨'\n', by simp [layoutMembers, newline], by decide⟩
  | cons m ms => exact ⟨',', by simp [layoutMembers], by decide⟩

mutual

/-- The text of a value is scanned into the tokens of the value. -/
theorem spells_layout (level : Nat) : ∀ v, Spells (layout level v) (tokens v)
  | .null => Closes.spells fun _ => by
    rw [layout, tokens]
    rfl
  | .bool true => Closes.spells fun _ => by
    rw [layout, tokens]
    rfl
  | .bool false => Closes.spells fun _ => by
    rw [layout, tokens]
    rfl
  | .natural n => by
    rw [layout, tokens]
    exact spells_natural n
  | .number => fun found => by
    rw [layout, tokens]
    exact congrArg some List.reverse_cons
  | .string s => by
    rw [layout, tokens]
    exact (closes_quote s).spells
  | .array [] => Closes.spells fun _ => by
    rw [layout, tokens]
    rfl
  | .array (v :: vs) => by
    have hopen : Closes ['['] [.openArray] := fun _ => rfl
    -- What follows the first item starts with a comma or a new line, which ends a numeral.
    have hitems := (spells_layout (level + 1) v).append (closes_layoutItems level vs)
      (head?_layoutItems level vs _)
    have hall := (hopen.append (closes_newline (level + 1))).append hitems
    rw [layout, tokens]
    simpa using hall.spells
  | .object [] => Closes.spells fun _ => by
    rw [layout, tokens]
    rfl
  | .object ((k, v) :: ms) => by
    have hopen : Closes ['\x7b'] [.openObject] := fun _ => rfl
    have hmembers := (spells_layout (level + 1) v).append (closes_layoutMembers level ms)
      (head?_layoutMembers level ms _)
    have hall := ((hopen.append (closes_newline (level + 1))).append (closes_key k)).append hmembers
    rw [layout, tokens]
    simpa using hall.spells

/-- The further items of an array are scanned up to the closing bracket. -/
theorem closes_layoutItems (level : Nat) :
    ∀ vs, Closes (layoutItems (level + 1) vs ++ (newline level ++ [']']))
      (itemTokens vs ++ [.closeArray])
  | [] => by
    rw [layoutItems, itemTokens]
    exact closes_bracket level
  | v :: vs => by
    have hitems := (spells_layout (level + 1) v).append (closes_layoutItems level vs)
      (head?_layoutItems level vs _)
    have hall := (closes_comma (level + 1)).append hitems
    rw [layoutItems, itemTokens]
    simpa using hall

/-- The further members of an object are scanned up to the closing brace. -/
theorem closes_layoutMembers (level : Nat) :
    ∀ ms, Closes (layoutMembers (level + 1) ms ++ (newline level ++ ['\x7d']))
      (memberTokens ms ++ [.closeObject])
  | [] => by
    rw [layoutMembers, memberTokens]
    exact closes_brace level
  | (k, v) :: ms => by
    have hmembers := (spells_layout (level + 1) v).append (closes_layoutMembers level ms)
      (head?_layoutMembers level ms _)
    have hall := ((closes_comma (level + 1)).append (closes_key k)).append hmembers
    rw [layoutMembers, memberTokens]
    simpa using hall

end

/-! ### From tokens to the value -/

/-- The first item of an array is read like any other value. -/
theorem run_firstItem (stack : List Frame) (v : Value) (rest : List Token) :
    (Reader.firstItem stack).run (tokens v ++ rest) =
      (Reader.value (.array [] :: stack)).run (tokens v ++ rest) := by
  cases v with
  | array items => cases items <;> simp [tokens, Reader.run, Reader.step]
  | object members => cases members <;> simp [tokens, Reader.run, Reader.step]
  | _ => simp [tokens, Reader.run, Reader.step]

mutual

/-- The tokens of a value are read as the value. -/
theorem run_tokens (stack : List Frame) :
    ∀ v, (Reader.value stack).run (tokens v) = some (.complete v stack)
  | .null | .bool _ | .natural _ | .number | .string _ | .array [] | .object [] => by
    rw [tokens]
    rfl
  | .array (v :: vs) => by
    have hopen : (Reader.value stack).run [.openArray] = some (.firstItem stack) := rfl
    rw [tokens, ← List.singleton_append, Reader.run_append, hopen, Option.bind_some, run_firstItem,
      Reader.run_append, run_tokens (.array [] :: stack) v, Option.bind_some,
      run_itemTokens stack [] v vs]
    rfl
  | .object ((k, v) :: ms) => by
    have hopen : (Reader.value stack).run [.openObject, .scalar (.string k), .colon] =
        some (.value (.object [] k :: stack)) := rfl
    rw [tokens]
    change (Reader.value stack).run ([.openObject, .scalar (.string k), .colon] ++ (_ ++ _)) = _
    rw [Reader.run_append, hopen, Option.bind_some, Reader.run_append,
      run_tokens (.object [] k :: stack) v, Option.bind_some, run_memberTokens stack [] k v ms]
    rfl

/-- After an item, the further items and the closing bracket complete the array. -/
theorem run_itemTokens (stack : List Frame) (items : List Value) (v : Value) :
    ∀ vs, (Reader.complete v (.array items :: stack)).run (itemTokens vs ++ [.closeArray]) =
      some (.complete (.array (items.reverse ++ v :: vs)) stack)
  | [] => by
    rw [itemTokens]
    simp [Reader.run, Reader.step]
  | w :: vs => by
    -- The complete item joins its frame at the comma, and the next one is read above the frame.
    have hcomma : (Reader.complete v (.array items :: stack)).run [.comma] =
        some (.value (.array (v :: items) :: stack)) := rfl
    rw [itemTokens]
    change (Reader.complete v (.array items :: stack)).run ([.comma] ++ (_ ++ _)) = _
    rw [Reader.run_append, hcomma, Option.bind_some, List.append_assoc, Reader.run_append,
      run_tokens (.array (v :: items) :: stack) w, Option.bind_some,
      run_itemTokens stack (v :: items) w vs]
    simp

/-- After a member, the further members and the closing brace complete the object. -/
theorem run_memberTokens (stack : List Frame) (members : List (Option String × Value))
    (k : Option String) (v : Value) :
    ∀ ms, (Reader.complete v (.object members k :: stack)).run
        (memberTokens ms ++ [.closeObject]) =
      some (.complete (.object (members.reverse ++ (k, v) :: ms)) stack)
  | [] => by
    rw [memberTokens]
    simp [Reader.run, Reader.step]
  | (l, w) :: ms => by
    have hkey : (Reader.complete v (.object members k :: stack)).run
        [.comma, .scalar (.string l), .colon] =
          some (.value (.object ((k, v) :: members) l :: stack)) := rfl
    rw [memberTokens]
    change (Reader.complete v (.object members k :: stack)).run
      ([.comma, .scalar (.string l), .colon] ++ (_ ++ _)) = _
    rw [Reader.run_append, hkey, Option.bind_some, List.append_assoc, Reader.run_append,
      run_tokens (.object ((k, v) :: members) l :: stack) w, Option.bind_some,
      run_memberTokens stack ((k, v) :: members) l w ms]
    simp

end

theorem ofTokens?_tokens (v : Value) : ofTokens? (tokens v) = some v := by
  rw [ofTokens?, run_tokens]
  rfl

/-- The text of a value is read as the value. -/
@[simp]
theorem parse?_pretty (v : Value) : parse? v.pretty = some v := by
  have hscan : Token.scan (layout 0 v) = some (tokens v) := spells_layout 0 v []
  rw [parse?, pretty, String.toList_ofList, hscan, Option.bind_some, ofTokens?_tokens]

end Value

end BannerGen.Json
