/-
  Proofs/Json/Token.lean --- the tokens of texts that were printed, and of blank ones.

  A quoted string is one token, and it has the value that was quoted: every character is escaped
  into a row that the lexer takes back to it (`foldlM_escapeChar`).  A value made of strings, lists
  and records is cut into the tokens that it was put together from (`Json.lexes`), and its text has
  no line feed in it.

  A blank text has no tokens, or characters that begin none.
-/
import VesselWatch.Json.Printer
import VesselWatch.Json.Token
import VesselWatch.Text.Blank
import Mathlib.Data.List.Forall2

set_option autoImplicit false

namespace VesselWatch.Json

/-! ## Strings -/

theorem hexValue_hexDigit {n : Nat} (small : n < 16) : hexValue (hexDigit n) = some n := by
  have hall : ∀ n : Fin 16, hexValue (hexDigit n) = some n.val := by decide
  exact hall ⟨n, small⟩

section Escapes

variable (tokens : List Token) (chars : List Char)

/-- The last two digits of an escaped control character. -/
theorem step_hex_hex {high low : Nat} (hhigh : high < 16) (hlow : low < 16)
    (control : 16 * high + low < 0x20) :
    ((Lexer.step ⟨tokens, .text chars true none (.hex 0 2)⟩ (hexDigit high)).bind fun l =>
      Lexer.step l (hexDigit low)) =
      some ⟨tokens, .text (Char.ofNat (16 * high + low) :: chars) true none .out⟩ := by
  have hfirst : Lexer.step ⟨tokens, .text chars true none (.hex 0 2)⟩ (hexDigit high) =
      some ⟨tokens, .text chars true none (.hex high 1)⟩ := by
    simp [Lexer.step, Lexer.inText, hexValue_hexDigit hhigh]
  rw [hfirst, Option.bind_some]
  simp only [Lexer.step, Lexer.inText, hexValue_hexDigit hlow, Option.map_some, Nat.le_refl,
    if_true]
  have hpair : ¬ 0xDC00 ≤ 16 * high + low := by omega
  have hlead : ¬ 0xD800 ≤ 16 * high + low := by omega
  simp [unitMode, hpair, hlead]

/-- A character that was escaped is read as itself. -/
theorem foldlM_escapeChar (c : Char) :
    (escapeChar c).foldlM Lexer.step (⟨tokens, .text chars true none .out⟩ : Lexer) =
      some ⟨tokens, .text (c :: chars) true none .out⟩ := by
  unfold escapeChar
  split
  · rfl
  · rfl
  · rfl
  · rfl
  · rfl
  · rfl
  · rfl
  · next hquote hslash _ _ _ _ _ =>
    simp only
    split
    · next control =>
      have hnumber : 16 * (c.toNat / 16) + c.toNat % 16 = c.toNat := Nat.div_add_mod ..
      have hhigh : c.toNat / 16 < 16 := by omega
      have hlow : c.toNat % 16 < 16 := by omega
      have hdigits := step_hex_hex tokens chars hhigh hlow (by omega)
      rw [hnumber, Char.ofNat_toNat] at hdigits
      change ((Lexer.step ⟨tokens, .text chars true none (.hex 0 2)⟩ (hexDigit (c.toNat / 16))).bind
        fun l => (Lexer.step l (hexDigit (c.toNat % 16))).bind some) = _
      rw [← Option.bind_assoc, hdigits]
      rfl
    · next printable =>
      have hquote : (c == '"') = false := beq_eq_false_iff_ne.mpr hquote
      have hslash : (c == '\\') = false := beq_eq_false_iff_ne.mpr hslash
      simp [Lexer.step, Lexer.inText, hquote, hslash, printable]

theorem foldlM_escapeChars (cs : List Char) :
    (cs.flatMap escapeChar).foldlM Lexer.step (⟨tokens, .text chars true none .out⟩ : Lexer) =
      some ⟨tokens, .text (cs.reverse ++ chars) true none .out⟩ := by
  induction cs generalizing chars with
  | nil => rfl
  | cons c cs ih =>
    rw [List.flatMap_cons, List.foldlM_append, foldlM_escapeChar]
    change List.foldlM Lexer.step _ _ = _
    rw [ih, List.reverse_cons, List.append_assoc]
    rfl

/-- A quoted string is one token. -/
theorem foldlM_quote (s : String) :
    (quote s).foldlM Lexer.step (⟨tokens, .between⟩ : Lexer) =
      some ⟨.text (some s) :: tokens, .between⟩ := by
  have hclose : Lexer.step ⟨tokens, .text s.toList.reverse true none .out⟩ '"' =
      some ⟨.text (some s) :: tokens, .between⟩ := by
    simp [Lexer.step, Lexer.inText]
  change (s.toList.flatMap escapeChar ++ ['"']).foldlM Lexer.step
    (⟨tokens, .text [] true none .out⟩ : Lexer) = _
  rw [List.foldlM_append, foldlM_escapeChars, List.append_nil]
  exact (Option.bind_some ..).trans hclose

end Escapes

/-! ## Values of strings, lists and records -/

mutual

/-- The value is made of strings, lists and records. -/
def Textual : Json → Prop
  | .text _ => True
  | .array items => TextualItems items
  | .object fields => TextualFields fields
  | _ => False

/-- Every item is made of strings, lists and records. -/
def TextualItems : List Json → Prop
  | [] => True
  | item :: rest => item.Textual ∧ TextualItems rest

/-- Every field has a value made of strings, lists and records. -/
def TextualFields : List (String × Json) → Prop
  | [] => True
  | (_, value) :: rest => value.Textual ∧ TextualFields rest

end

/-- Puts commas between rows of tokens. -/
def commaTokens : List (List Token) → List Token
  | [] => []
  | [ts] => ts
  | ts :: us :: rest => ts ++ .comma :: commaTokens (us :: rest)

mutual

/-- The tokens of a value made of strings, lists and records. -/
def tokens : Json → List Token
  | .text s => [.text (some s)]
  | .array items => .openList :: (commaTokens (itemTokens items) ++ [.closeList])
  | .object fields => .openRecord :: (commaTokens (fieldTokens fields) ++ [.closeRecord])
  | _ => []

/-- The tokens of each item. -/
def itemTokens : List Json → List (List Token)
  | [] => []
  | item :: rest => item.tokens :: itemTokens rest

/-- The tokens of each field. -/
def fieldTokens : List (String × Json) → List (List Token)
  | [] => []
  | (key, value) :: rest => (.text (some key) :: .colon :: value.tokens) :: fieldTokens rest

end

/-- The lexer cuts these characters into these tokens, wherever they stand. -/
def Lexes (cs : List Char) (ts : List Token) : Prop :=
  ∀ done, cs.foldlM Lexer.step (⟨done, .between⟩ : Lexer) = some ⟨ts.reverse ++ done, .between⟩

theorem Lexes.append {cs cs' : List Char} {ts ts' : List Token} (lexes : Lexes cs ts)
    (lexes' : Lexes cs' ts') : Lexes (cs ++ cs') (ts ++ ts') := by
  intro done
  rw [List.foldlM_append, lexes done]
  change List.foldlM Lexer.step _ _ = _
  rw [lexes', List.reverse_append, List.append_assoc]

theorem Lexes.cons {c : Char} {t : Token}
    (one : ∀ done, Lexer.step ⟨done, .between⟩ c = some ⟨t :: done, .between⟩) {cs : List Char}
    {ts : List Token} (lexes : Lexes cs ts) : Lexes (c :: cs) (t :: ts) := by
  have hone : Lexes [c] [t] := fun done => by
    rw [List.foldlM_cons, one]
    rfl
  exact hone.append lexes

theorem lexes_nil : Lexes [] [] := fun _ => rfl

theorem lexes_quote (s : String) : Lexes (quote s) [.text (some s)] := fun done =>
  foldlM_quote done s

/-- Commas in the text become commas between the tokens. -/
theorem lexes_commaSeparated {rows : List (List Char)} {tokens : List (List Token)}
    (lexes : List.Forall₂ Lexes rows tokens) :
    Lexes (commaSeparated rows) (commaTokens tokens) := by
  induction lexes with
  | nil => exact lexes_nil
  | cons first rest ih =>
    cases rest with
    | nil => exact first
    | cons => exact first.append (.cons (fun _ => rfl) ih)

mutual

/-- The text of a value is cut into its tokens. -/
theorem lexes : ∀ j : Json, j.Textual → Lexes j.chars j.tokens
  | .text s, _ => by
    unfold Json.chars Json.tokens
    exact lexes_quote s
  | .array items, textual => by
    unfold Json.Textual at textual
    unfold Json.chars Json.tokens
    have hitems := lexes_commaSeparated (lexes_items items textual)
    exact .cons (fun _ => rfl) (hitems.append (.cons (fun _ => rfl) lexes_nil))
  | .object fields, textual => by
    unfold Json.Textual at textual
    unfold Json.chars Json.tokens
    have hfields := lexes_commaSeparated (lexes_fields fields textual)
    exact .cons (fun _ => rfl) (hfields.append (.cons (fun _ => rfl) lexes_nil))
  | .null, textual | .bool _, textual | .number _, textual => by
    unfold Json.Textual at textual
    exact textual.elim

theorem lexes_items : ∀ items : List Json, TextualItems items →
    List.Forall₂ Lexes (Json.itemChars items) (itemTokens items)
  | [], _ => .nil
  | item :: rest, textual => by
    unfold TextualItems at textual
    exact .cons (lexes item textual.1) (lexes_items rest textual.2)

theorem lexes_fields : ∀ fields : List (String × Json), TextualFields fields →
    List.Forall₂ Lexes (Json.fieldChars fields) (fieldTokens fields)
  | [], _ => .nil
  | (key, value) :: rest, textual => by
    unfold TextualFields at textual
    have hvalue : Lexes (':' :: value.chars) (.colon :: value.tokens) :=
      .cons (fun _ => rfl) (lexes value textual.1)
    exact .cons ((lexes_quote key).append hvalue) (lexes_fields rest textual.2)

end

/-- The tokens of a whole text that was printed. -/
theorem tokens?_chars {j : Json} (textual : j.Textual) : tokens? j.chars = some j.tokens := by
  unfold tokens?
  rw [lexes j textual []]
  change some (j.tokens.reverse ++ []).reverse = _
  rw [List.append_nil, List.reverse_reverse]

/-! ## No line feeds -/

theorem newline_notMem_escapeChar (c : Char) : '\n' ∉ escapeChar c := by
  unfold escapeChar
  split
  · decide
  · decide
  · decide
  · decide
  · decide
  · decide
  · decide
  · next hnewline _ _ _ _ =>
    simp only
    split
    · next control =>
      have hdigit : ∀ n : Fin 16, hexDigit n ≠ '\n' := by decide
      have hhigh := hdigit ⟨c.toNat / 16, by omega⟩
      have hlow := hdigit ⟨c.toNat % 16, by omega⟩
      simp [hhigh.symm, hlow.symm]
    · simpa using Ne.symm hnewline

theorem newline_notMem_quote (s : String) : '\n' ∉ quote s := by
  unfold quote
  intro member
  simp only [List.mem_cons, List.mem_append, List.mem_flatMap, List.not_mem_nil, or_false] at member
  rcases member with heq | ⟨c, -, hc⟩ | heq
  · exact absurd heq (by decide)
  · exact newline_notMem_escapeChar c hc
  · exact absurd heq (by decide)

theorem newline_notMem_commaSeparated {rows : List (List Char)} (clean : ∀ row ∈ rows, '\n' ∉ row) :
    '\n' ∉ commaSeparated rows := by
  induction rows using commaSeparated.induct with
  | case1 => exact List.not_mem_nil
  | case2 row => exact clean row (List.mem_singleton_self row)
  | case3 row next rest ih =>
    rw [List.forall_mem_cons] at clean
    unfold commaSeparated
    simp [clean.1, ih clean.2]

mutual

theorem newline_notMem_chars : ∀ j : Json, j.Textual → '\n' ∉ j.chars
  | .text s, _ => by
    unfold Json.chars
    exact newline_notMem_quote s
  | .array items, textual => by
    unfold Json.Textual at textual
    unfold Json.chars
    simp [newline_notMem_commaSeparated (newline_notMem_itemChars items textual)]
  | .object fields, textual => by
    unfold Json.Textual at textual
    unfold Json.chars
    simp [newline_notMem_commaSeparated (newline_notMem_fieldChars fields textual)]
  | .null, textual | .bool _, textual | .number _, textual => by
    unfold Json.Textual at textual
    exact textual.elim

theorem newline_notMem_itemChars : ∀ items : List Json, TextualItems items →
    ∀ row ∈ Json.itemChars items, '\n' ∉ row
  | [], _ => List.forall_mem_nil _
  | item :: rest, textual => by
    unfold TextualItems at textual
    exact List.forall_mem_cons.mpr
      ⟨newline_notMem_chars item textual.1, newline_notMem_itemChars rest textual.2⟩

theorem newline_notMem_fieldChars : ∀ fields : List (String × Json), TextualFields fields →
    ∀ row ∈ Json.fieldChars fields, '\n' ∉ row
  | [], _ => List.forall_mem_nil _
  | (key, value) :: rest, textual => by
    unfold TextualFields at textual
    refine List.forall_mem_cons.mpr ⟨?_, newline_notMem_fieldChars rest textual.2⟩
    simp [newline_notMem_quote key, newline_notMem_chars value textual.1]

end

/-! ## Blank texts -/

theorem not_graphic_of_isBlank {c : Char} (blank : Text.isBlank c = true) :
    ¬ (33 ≤ c.toNat ∧ c.toNat ≤ 126) := by
  simp only [Text.isBlank, Bool.or_eq_true, Bool.and_eq_true, decide_eq_true_eq,
    beq_iff_eq] at blank
  omega

theorem toNat_of_isDigit {c : Char} (digit : c.isDigit = true) :
    48 ≤ c.toNat ∧ c.toNat ≤ 57 := by
  simpa [Char.isDigit, UInt32.le_iff_toNat_le] using digit

theorem toNat_of_isLower {c : Char} (lower : c.isLower = true) :
    97 ≤ c.toNat ∧ c.toNat ≤ 122 := by
  have hbounds : (c.val ≥ 97 && c.val ≤ 122) = true := lower
  simpa [UInt32.le_iff_toNat_le] using hbounds

/-- A blank between two tokens is passed over, or no token begins with it. -/
theorem begin_of_isBlank {c : Char} (blank : Text.isBlank c = true) (tokens : List Token) :
    Lexer.begin tokens c = some ⟨tokens, .between⟩ ∨ Lexer.begin tokens c = none := by
  have hgraphic := not_graphic_of_isBlank blank
  unfold Lexer.begin
  split
  · exact .inl rfl
  · split
    · exact absurd blank (by decide)
    · exact absurd blank (by decide)
    · exact absurd blank (by decide)
    · exact absurd blank (by decide)
    · exact absurd blank (by decide)
    · exact absurd blank (by decide)
    · exact absurd blank (by decide)
    · split
      · next number =>
        rw [Bool.or_eq_true, beq_iff_eq] at number
        rcases number with rfl | digit
        · exact absurd blank (by decide)
        · have hbounds := toNat_of_isDigit digit
          omega
      · split
        · next lower =>
          have hbounds := toNat_of_isLower lower
          omega
        · exact .inr rfl

/-- A blank text has no tokens, if it can be cut at all. -/
theorem tokens?_of_blank {cs : List Char} (blank : cs.all Text.isBlank = true) :
    tokens? cs = some [] ∨ tokens? cs = none := by
  have hlexer : cs.foldlM Lexer.step (⟨[], .between⟩ : Lexer) = some ⟨[], .between⟩ ∨
      cs.foldlM Lexer.step (⟨[], .between⟩ : Lexer) = none := by
    induction cs with
    | nil => exact .inl rfl
    | cons c cs ih =>
      rw [List.all_cons, Bool.and_eq_true] at blank
      rw [List.foldlM_cons]
      change ((Lexer.begin [] c).bind _ = _) ∨ ((Lexer.begin [] c).bind _ = _)
      rcases begin_of_isBlank blank.1 [] with passed | stuck
      · rw [passed]
        exact ih blank.2
      · rw [stuck]
        exact .inr rfl
  unfold tokens?
  rcases hlexer with passed | stuck
  · rw [passed]
    exact .inl rfl
  · rw [stuck]
    exact .inr rfl

end VesselWatch.Json
