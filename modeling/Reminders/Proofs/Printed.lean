import Mathlib
import Reminders.Json.Printer
import Reminders.Json.Reader
import Reminders.Proofs.Digits

/-!
# Printed values are read back

A value has `tokens`, one row of them whatever the blanks between them.  The text that
`pretty` prints splits into them (`Plain.splits`), and the reader builds the value from them
(`Reading.delivers_of_plain`).  Both are inductions on the value, and both are stated with what
follows the value: for the text anything that does not go on with a numeral, for the tokens
anything at all.  So `read?_pretty` is one step.

It holds of the `Plain` values: those with integers of at most 64 bits for their numbers, in
which every part can be read and no array or object stands too deep.
-/

namespace Reminders

namespace Numeral

/-- Whether a text goes on with something that cannot belong to a numeral. -/
def Ends (rest : List Char) : Prop := ∀ c ∈ rest.head?, isPart c = false

theorem isPart_of_isDigit {c : Char} (h : c.isDigit = true) : isPart c = true := by
  rw [isPart, h, Bool.true_or]

/-- Digits are a whole part without a fraction and a power. -/
theorem unsigned?_digits (negative : Bool) (n : Nat) :
    unsigned? negative (Text.digits n) = some ⟨negative, Text.digits n, none, none⟩ := by
  obtain ⟨htake, hdrop⟩ := Text.span_append (Text.digits n) []
    (fun _ => Text.isDigit_of_mem_digits) (by rintro c ⟨⟩)
  rw [List.append_nil] at htake hdrop
  have hlead : ((Text.digits n).head? == some '0' && decide ((Text.digits n).length > 1)) =
      false := by
    by_cases hzero : n = 0
    · rw [hzero, Text.digits_of_lt (by decide)]
      rfl
    · simp [Text.head?_digits_ne hzero]
  rw [unsigned?, htake, hdrop, hlead]
  simp [Text.digits_ne_nil, withFraction?, withPower?]

/-- A decimal text is read as its sign and its digits. -/
theorem read?_decimalChars (n : Int) :
    read? (Text.decimalChars n) =
      some ⟨decide (n < 0), Text.digits n.natAbs, none, none⟩ := by
  rw [Text.decimalChars]
  split
  case isTrue hneg => rw [read?, unsigned?_digits, decide_eq_true hneg]
  case isFalse hpos =>
    rw [← unsigned?_digits, decide_eq_false hpos, read?]
    rintro rest heq
    have hmem : '-' ∈ Text.digits n.natAbs := by simp [heq]
    exact absurd (Text.isDigit_of_mem_digits hmem) (by decide)

/-- Whether an integer is one of at most 64 bits. -/
def Fits (n : Int) : Prop := -2 ^ 63 ≤ n ∧ n < 2 ^ 64

/-- A numeral without fraction and power is the integer its digits stand for. -/
theorem number?_digits {n : Int} (h : Fits n) :
    number? ⟨decide (n < 0), Text.digits n.natAbs, none, none⟩ = some (.integer n) := by
  obtain ⟨hlow, hhigh⟩ := h
  have hinteger : integer? ⟨decide (n < 0), Text.digits n.natAbs, none, none⟩ = some n := by
    rw [integer?, if_neg (by simp)]
    simp only [Text.valueOf_digits, decide_eq_true_eq, greatestSignificand, UInt64.size,
      Nat.pow_eq]
    by_cases hneg : n < 0
    · rw [if_pos hneg, if_pos (by omega), Option.some.injEq, Int.ofNat_eq_natCast]
      omega
    · rw [if_neg hneg, if_pos (by omega), Option.some.injEq, Int.ofNat_eq_natCast]
      omega
  rw [number?, hinteger]

theorem isPart_of_mem_decimalChars {n : Int} {c : Char} (h : c ∈ Text.decimalChars n) :
    isPart c = true := by
  rcases Text.eq_or_isDigit_of_mem_decimalChars h with rfl | hdigit
  · decide
  · exact isPart_of_isDigit hdigit

end Numeral

namespace Json

/-- A numeral is read up to where it ends. -/
theorem numeralToken?_decimalChars {n : Int} {rest : List Char} (h : Numeral.Fits n)
    (hrest : Numeral.Ends rest) :
    numeralToken? (Text.decimalChars n ++ rest) = some (.number (some (.integer n)), rest) := by
  obtain ⟨htake, hdrop⟩ := Text.span_append (Text.decimalChars n) rest
    (fun _ => Numeral.isPart_of_mem_decimalChars) hrest
  rw [numeralToken?, htake, hdrop, Numeral.read?_decimalChars, Option.map_some,
    Numeral.number?_digits h]

/-! ## Quoted texts -/

theorem hexValue?_hexDigit {n : Nat} (h : n < 16) : hexValue? (Text.hexDigit n) = some n := by
  have every : ∀ m ∈ List.range 16, hexValue? (Text.hexDigit m) = some m := by decide
  exact every n (List.mem_range.2 h)

theorem units?_escape {done rest : List _} {e c : Char} (h : escaped? e = some c) :
    units? done ('\\' :: e :: rest) = units? (c.toNat :: done) rest := by
  have hne : e ≠ 'u' := by
    rintro rfl
    cases h
  rw [units?.eq_def]
  split
  case h_1 heq => cases heq
  case h_2 heq => cases heq
  case h_3 heq =>
    cases heq
    exact absurd rfl hne
  case h_4 heq =>
    cases heq
    rw [h]
  case h_5 hslash heq =>
    cases heq
    exact (hslash _ _ rfl rfl).elim

/-- A character is written as an escape with a letter, as one with its number, or as itself. -/
theorem escapedChar_cases (c : Char) :
    (∃ e, escapedChar c = ['\\', e] ∧ escaped? e = some c) ∨
      (c.toNat < 0x20 ∧ escapedChar c =
        ['\\', 'u', '0', '0', Text.hexDigit (c.toNat / 16), Text.hexDigit (c.toNat % 16)]) ∨
      (c ≠ '"' ∧ c ≠ '\\' ∧ 0x20 ≤ c.toNat ∧ escapedChar c = [c]) := by
  rw [escapedChar]
  split_ifs with hquote hslash _ _ _ _ _ hcontrol
  iterate 7
    · subst c
      exact .inl ⟨_, rfl, rfl⟩
  · exact .inr (.inl ⟨hcontrol, rfl⟩)
  · exact .inr (.inr ⟨hquote, hslash, Nat.not_lt.1 hcontrol, rfl⟩)

/-- A written character stands for its code point. -/
theorem units?_escapedChar (done : List Nat) (c : Char) (rest : List Char) :
    units? done (escapedChar c ++ rest) = units? (c.toNat :: done) rest := by
  obtain ⟨e, hwritten, he⟩ | ⟨hcontrol, hwritten⟩ | ⟨hquote, hslash, hprintable, hwritten⟩ :=
    escapedChar_cases c
  · rw [hwritten]
    exact units?_escape he
  · have hzero : hexValue? '0' = some 0 := by decide
    have hunit : unit? '0' '0' (Text.hexDigit (c.toNat / 16)) (Text.hexDigit (c.toNat % 16)) =
        some c.toNat := by
      have hvalue : c.toNat / 16 * 16 + c.toNat % 16 = c.toNat := by omega
      rw [unit?, hzero, hexValue?_hexDigit (by omega), hexValue?_hexDigit (by omega)]
      simpa using hvalue
    rw [hwritten]
    simp only [List.cons_append, List.nil_append, units?, hunit]
  · rw [hwritten, List.singleton_append, units?.eq_def]
    split
    case h_1 heq => cases heq
    case h_2 heq =>
      cases heq
      exact absurd rfl hquote
    case h_3 heq =>
      cases heq
      exact absurd rfl hslash
    case h_4 heq =>
      cases heq
      exact absurd rfl hslash
    case h_5 heq =>
      cases heq
      rw [if_neg (Nat.not_lt.2 hprintable)]

/-- Written characters are read up to the closing quote. -/
theorem units?_textChars (done : List Nat) (cs rest : List Char) :
    units? done (cs.flatMap escapedChar ++ '"' :: rest) =
      some ((cs.map Char.toNat).reverse ++ done, rest) := by
  induction cs generalizing done with
  | nil => simp [units?]
  | cons c cs ih =>
    rw [List.flatMap_cons, List.append_assoc, units?_escapedChar, ih]
    simp

/-- A character is never half of a surrogate pair. -/
theorem not_isHigh_toNat (c : Char) : isHigh c.toNat = false ∧ isLow c.toNat = false := by
  have hvalid := c.valid
  simp only [UInt32.isValidChar, Nat.isValidChar] at hvalid
  change c.toNat < 0xD800 ∨ (0xDFFF < c.toNat ∧ c.toNat < 0x110000) at hvalid
  simp only [isHigh, isLow, Bool.and_eq_false_iff, decide_eq_false_iff_not]
  omega

/-- Code points are joined to the characters they came from, since none is a surrogate. -/
theorem join?_toNat (done cs : List Char) :
    join? done (cs.map Char.toNat) = some (done.reverse ++ cs) := by
  induction cs generalizing done with
  | nil => simp [join?]
  | cons c cs ih =>
    obtain ⟨hhigh, hlow⟩ := not_isHigh_toNat c
    rw [List.map_cons, join?.eq_def]
    simp only [hhigh, hlow, Bool.false_eq_true, if_false, Char.ofNat_toNat, ih]
    simp

/-- A quoted text is one token. -/
theorem quotedToken?_textChars (s : String) (rest : List Char) :
    quotedToken? (s.toList.flatMap escapedChar ++ '"' :: rest) = some (.text (some s), rest) := by
  simp [quotedToken?, units?_textChars, join?_toNat]

/-! ## Tokens -/

theorem tokens?_blank {c : Char} (h : isBlank c = true) (rest : List Char) :
    tokens? (c :: rest) = tokens? rest := by
  rw [tokens?, if_pos h]

/-- A token is read, and then the text behind it. -/
theorem tokens?_token {c : Char} {rest after : List Char} {token : Token}
    (hblank : isBlank c = false) (h : token? c rest = some (token, after)) :
    tokens? (c :: rest) = (tokens? after).map (token :: ·) := by
  rw [tokens?, if_neg (by simp [hblank])]
  split
  case h_1 hnone =>
    rw [h] at hnone
    cases hnone
  case h_2 token' after' hsome =>
    rw [h] at hsome
    cases hsome
    rfl

theorem tokens?_mark {c : Char} {token : Token} (h : mark? c = some token) (rest : List Char) :
    tokens? (c :: rest) = (tokens? rest).map (token :: ·) := by
  refine tokens?_token ?_ (by rw [token?, h])
  by_contra hblank
  simp only [isBlank, Bool.or_eq_false_iff, decide_eq_false_iff_not, not_and_or, not_not] at hblank
  rcases hblank with ((rfl | rfl) | rfl) | rfl <;> cases h

/-- Line breaks and indentation are blanks. -/
theorem tokens?_newLine (level : Nat) (rest : List Char) :
    tokens? (newLine level ++ rest) = tokens? rest := by
  have hspaces : ∀ count, tokens? (List.replicate count ' ' ++ rest) = tokens? rest := by
    intro count
    induction count with
    | zero => rfl
    | succ count ih => rw [List.replicate_succ, List.cons_append, tokens?_blank (by decide), ih]
  rw [newLine, List.cons_append, tokens?_blank (by decide), hspaces]

theorem tokens?_textChars (s : String) (rest : List Char) :
    tokens? (textChars s ++ rest) = (tokens? rest).map (.text (some s) :: ·) := by
  have hsplit : textChars s ++ rest = '"' :: (s.toList.flatMap escapedChar ++ '"' :: rest) := by
    simp [textChars]
  rw [hsplit]
  refine tokens?_token (by decide) ?_
  exact quotedToken?_textChars s rest

/-- What belongs to a numeral is neither a blank nor a mark nor a quote. -/
theorem separates_of_isPart {c : Char} (h : Numeral.isPart c = true) :
    isBlank c = false ∧ mark? c = none ∧ c ≠ '"' := by
  refine ⟨?_, ?_, ?_⟩
  · by_contra hblank
    simp only [isBlank, Bool.or_eq_false_iff, decide_eq_false_iff_not, not_and_or, not_not]
      at hblank
    rcases hblank with ((rfl | rfl) | rfl) | rfl <;> cases h
  · rw [mark?.eq_def]
    split <;> first | rfl | cases h
  · rintro rfl
    cases h

/-- A printed integer is one token if no numeral goes on behind it. -/
theorem tokens?_decimalChars {n : Int} {rest : List Char} (h : Numeral.Fits n)
    (hrest : Numeral.Ends rest) : tokens? (Text.decimalChars n ++ rest) =
      (tokens? rest).map (.number (some (.integer n)) :: ·) := by
  obtain ⟨c, cs, hcs⟩ := List.exists_cons_of_ne_nil (Text.decimalChars_ne_nil n)
  have hstart : c = '-' ∨ c.isDigit = true := by
    refine Text.eq_or_isDigit_of_mem_decimalChars (n := n) ?_
    simp [hcs]
  rw [hcs, List.cons_append]
  have hpart : Numeral.isPart c = true :=
    Numeral.isPart_of_mem_decimalChars (n := n) (by simp [hcs])
  obtain ⟨hblank, hmark, hquote⟩ := separates_of_isPart hpart
  have he : c ≠ 'e' ∧ c ≠ 'E' := by
    rcases hstart with rfl | hdigit
    · decide
    · constructor <;> rintro rfl <;> cases hdigit
  refine tokens?_token hblank ?_
  rw [token?, hmark]
  simp only [if_neg hquote, hpart, he.1, he.2, ne_eq, not_false_eq_true, decide_true, Bool.and_self,
    if_true]
  rw [← List.cons_append, ← hcs]
  exact numeralToken?_decimalChars h hrest

/-! ## The tokens of a value -/

mutual

/-- The tokens of a value. -/
def tokens : Json → List Token
  | .null | .unreadable => [.null]
  | .bool b => [.bool b]
  | .number n => [.number (some n)]
  | .text s => [.text (some s)]
  | .array [] => [.openArray, .closeArray]
  | .array (item :: rest) => .openArray :: tokens item ++ itemTokens rest
  | .object [] => [.openObject, .closeObject]
  | .object ((name, value) :: rest) =>
      .openObject :: .text (some name) :: .colon :: tokens value ++ fieldTokens rest

/-- The tokens of the items behind the first one, and of the end of their array. -/
def itemTokens : List Json → List Token
  | [] => [.closeArray]
  | item :: rest => .comma :: tokens item ++ itemTokens rest

/-- The tokens of the fields behind the first one, and of the end of their object. -/
def fieldTokens : List (String × Json) → List Token
  | [] => [.closeObject]
  | (name, value) :: rest =>
      .comma :: .text (some name) :: .colon :: tokens value ++ fieldTokens rest

end

/-- The values whose texts can be read back: every number is an integer of at most 64
bits, every part can be read, and at most `depth` arrays and objects stand inside one another. -/
inductive Plain : Nat → Json → Prop where
  | null {depth : Nat} : Plain depth .null
  | bool {depth : Nat} (b : Bool) : Plain depth (.bool b)
  | int {depth : Nat} {n : Int} : Numeral.Fits n → Plain depth (.int n)
  | text {depth : Nat} (s : String) : Plain depth (.text s)
  | array {depth : Nat} {items : List Json} :
      (∀ item ∈ items, Plain depth item) → Plain (depth + 1) (.array items)
  | object {depth : Nat} {fields : List (String × Json)} :
      (∀ field ∈ fields, Plain depth field.2) → Plain (depth + 1) (.object fields)

theorem readableItems_of_forall {items : List Json} (h : ∀ item ∈ items, item.readable = true) :
    readableItems items = true := by
  induction items with
  | nil => rfl
  | cons item items ih =>
    rw [List.forall_mem_cons] at h
    rw [readableItems, h.1, ih h.2, Bool.and_self]

theorem readableFields_of_forall {fields : List (String × Json)}
    (h : ∀ field ∈ fields, field.2.readable = true) : readableFields fields = true := by
  induction fields with
  | nil => rfl
  | cons field fields ih =>
    rw [List.forall_mem_cons] at h
    rw [readableFields, h.1, ih h.2, Bool.and_self]

/-- Nothing in a plain value is unreadable. -/
theorem Plain.readable {depth : Nat} {value : Json} (h : Plain depth value) :
    value.readable = true := by
  induction h with
  | null | bool | int | text => rfl
  | array _ ih => exact readableItems_of_forall ih
  | object _ ih => exact readableFields_of_forall ih

/-- Whether the text of a value falls into its tokens. -/
def Splits (value : Json) : Prop :=
  ∀ (level : Nat) (rest : List Char), Numeral.Ends rest →
    tokens? (prettyChars level value ++ rest) = (tokens? rest).map (value.tokens ++ ·)

theorem ends_cons {c : Char} (h : Numeral.isPart c = false) (rest : List Char) :
    Numeral.Ends (c :: rest) := by
  rintro c' ⟨⟩
  exact h

theorem ends_newLine (level : Nat) (rest : List Char) : Numeral.Ends (newLine level ++ rest) :=
  ends_cons (by decide) _

/-- Behind an item stands a comma or a line break, so a numeral ends there. -/
theorem ends_prettyItems (level : Nat) (items : List Json) (rest : List Char) :
    Numeral.Ends (prettyItems level items ++ rest) := by
  cases items with
  | nil =>
    rw [prettyItems, List.append_assoc]
    exact ends_newLine level _
  | cons => exact ends_cons (by decide) _

theorem ends_prettyFields (level : Nat) (fields : List (String × Json)) (rest : List Char) :
    Numeral.Ends (prettyFields level fields ++ rest) := by
  cases fields with
  | nil =>
    rw [prettyFields, List.append_assoc]
    exact ends_newLine level _
  | cons => exact ends_cons (by decide) _

/-- The text behind the first item falls into its tokens if each item does. -/
theorem tokens?_prettyItems {items : List Json} (h : ∀ item ∈ items, item.Splits) (level : Nat)
    (rest : List Char) : tokens? (prettyItems level items ++ rest) =
      (tokens? rest).map (itemTokens items ++ ·) := by
  induction items with
  | nil =>
    rw [prettyItems, List.append_assoc, tokens?_newLine, List.singleton_append, tokens?_mark rfl]
    rfl
  | cons item items ih =>
    have hitem := h item (by simp) (level + 1) _ (ends_prettyItems level items rest)
    rw [prettyItems]
    simp only [List.cons_append, List.append_assoc]
    rw [tokens?_mark rfl, tokens?_newLine, hitem, ih fun x hx => h x (by simp [hx])]
    simp [itemTokens, Function.comp_def]

/-- The text behind the first field falls into its tokens if each field does. -/
theorem tokens?_prettyFields {fields : List (String × Json)} (h : ∀ field ∈ fields, field.2.Splits)
    (level : Nat) (rest : List Char) : tokens? (prettyFields level fields ++ rest) =
      (tokens? rest).map (fieldTokens fields ++ ·) := by
  induction fields with
  | nil =>
    rw [prettyFields, List.append_assoc, tokens?_newLine, List.singleton_append, tokens?_mark rfl]
    rfl
  | cons field fields ih =>
    have hfield := h field (by simp) (level + 1) _ (ends_prettyFields level fields rest)
    rw [prettyFields]
    simp only [List.cons_append, List.append_assoc]
    rw [tokens?_mark rfl, tokens?_newLine, tokens?_textChars, tokens?_mark rfl,
      tokens?_blank (by decide), hfield, ih fun x hx => h x (by simp [hx])]
    simp [fieldTokens, Function.comp_def]

/-- The printed text of a plain value falls into its tokens. -/
theorem Plain.splits {depth : Nat} {value : Json} (h : Plain depth value) : value.Splits := by
  induction h with
  | null => exact fun level rest _ => tokens?_token (by decide) rfl
  | bool b => cases b <;> exact fun level rest _ => tokens?_token (by decide) rfl
  | int hfits => exact fun level rest hrest => tokens?_decimalChars hfits hrest
  | text s => exact fun level rest _ => tokens?_textChars s rest
  | @array depth items _ ih =>
    intro level rest _
    cases items with
    | nil =>
      rw [prettyChars, List.cons_append, tokens?_mark rfl, List.singleton_append, tokens?_mark rfl]
      simp [tokens, Function.comp_def]
    | cons item items =>
      have hitem := ih item (by simp) (level + 1) _ (ends_prettyItems level items rest)
      have hitems := tokens?_prettyItems (fun x hx => ih x (List.mem_cons_of_mem _ hx)) level rest
      rw [prettyChars]
      simp only [List.cons_append, List.append_assoc]
      rw [tokens?_mark rfl, tokens?_newLine, hitem, hitems]
      simp [tokens, Function.comp_def]
  | @object depth fields _ ih =>
    intro level rest _
    cases fields with
    | nil =>
      rw [prettyChars, List.cons_append, tokens?_mark rfl, List.singleton_append, tokens?_mark rfl]
      simp [tokens, Function.comp_def]
    | cons field fields =>
      have hfield := ih field (by simp) (level + 1) _ (ends_prettyFields level fields rest)
      have hfields := tokens?_prettyFields (fun x hx => ih x (List.mem_cons_of_mem _ hx)) level rest
      rw [prettyChars]
      simp only [List.cons_append, List.append_assoc]
      rw [tokens?_mark rfl, tokens?_newLine, tokens?_textChars, tokens?_mark rfl,
        tokens?_blank (by decide), hfield, hfields]
      simp [tokens, Function.comp_def]

/-! ## Reading the tokens -/

/-- No value starts with the bracket that closes an array. -/
theorem exists_tokens (value : Json) : ∃ token rest, value.tokens = token :: rest ∧
    token ≠ .closeArray := by
  cases value with
  | null => exact ⟨_, _, rfl, by simp⟩
  | bool => exact ⟨_, _, rfl, by simp⟩
  | number => exact ⟨_, _, rfl, by simp⟩
  | text => exact ⟨_, _, rfl, by simp⟩
  | unreadable => exact ⟨_, _, rfl, by simp⟩
  | array items => cases items <;> exact ⟨_, _, rfl, by simp⟩
  | object fields => cases fields <;> exact ⟨_, _, rfl, by simp⟩

namespace Reading

/-- Whether the tokens of a value bring it to the place where it is expected, inside as many
arrays and objects as leave room for the depth. -/
def Delivers (depth : Nat) (value : Json) : Prop :=
  ∀ (frames : List Frame) (rest : List Token), frames.length + depth ≤ greatestDepth →
    run? ⟨.value, frames⟩ (value.tokens ++ rest) = run? (deliver value frames) rest

theorem run?_cons {r r' : Reading} {token : Token} (h : step? r token = some r')
    (rest : List Token) : run? r (token :: rest) = run? r' rest := by
  rw [run?, h]

/-- An array that does not close at once goes on with its first item. -/
theorem run?_firstItem (value : Json) (frames : List Frame) (rest : List Token) :
    run? ⟨.firstItem, frames⟩ (value.tokens ++ rest) =
      run? ⟨.value, frames⟩ (value.tokens ++ rest) := by
  obtain ⟨token, behind, htokens, hne⟩ := value.exists_tokens
  rw [htokens, List.cons_append, run?, run?]
  simp only [step?, if_neg hne]

/-- An array that does not stand too deep is kept as it is. -/
theorem closed_array {outer : List Frame} (h : outer.length < greatestDepth) (done : List Json) :
    closed (.array done) outer = .array done.reverse := by
  rw [closed, if_neg (by rw [isTooDeep_iff]; omega)]

theorem named?_some (fields : List (String × Json)) :
    named? (fields.map fun field => (some field.1, field.2)) = some fields := by
  induction fields with
  | nil => rfl
  | cons field fields ih => rw [List.map_cons, named?, ih, Option.map_some]

theorem closed_object {outer : List Frame} (h : outer.length < greatestDepth)
    (done : List (String × Json)) (name : Option String) :
    closed (.object (done.map fun field => (some field.1, field.2)) name) outer =
      .object done.reverse := by
  rw [closed, if_neg (by rw [isTooDeep_iff]; omega), ← List.map_reverse, named?_some]

variable {depth : Nat} {outer : List Frame}

/-- The items behind the first one are read if each of them is. -/
theorem run?_itemTokens {items : List Json} (h : ∀ item ∈ items, Delivers depth item)
    (hdepth : outer.length + (depth + 1) ≤ greatestDepth) (done : List Json) (rest : List Token) :
    run? ⟨.more, .array done :: outer⟩ (itemTokens items ++ rest) =
      run? (deliver (.array (done.reverse ++ items)) outer) rest := by
  induction items generalizing done with
  | nil =>
    rw [itemTokens, List.singleton_append, run?_cons rfl, closed_array (by omega), List.append_nil]
  | cons item items ih =>
    have hitem := h item (by simp) (.array done :: outer) (itemTokens items ++ rest)
      (by rw [List.length_cons]; omega)
    rw [itemTokens, List.cons_append, List.cons_append, List.append_assoc, run?_cons rfl, hitem,
      deliver, ih fun x hx => h x (by simp [hx])]
    simp

/-- The fields behind the first one are read if each of them is. -/
theorem run?_fieldTokens {fields : List (String × Json)}
    (h : ∀ field ∈ fields, Delivers depth field.2)
    (hdepth : outer.length + (depth + 1) ≤ greatestDepth) (done : List (String × Json))
    (rest : List Token) :
    run? ⟨.more, .object (done.map fun field => (some field.1, field.2)) none :: outer⟩
        (fieldTokens fields ++ rest) =
      run? (deliver (.object (done.reverse ++ fields)) outer) rest := by
  induction fields generalizing done with
  | nil =>
    rw [fieldTokens, List.singleton_append, run?_cons rfl, closed_object (by omega),
      List.append_nil]
  | cons field fields ih =>
    obtain ⟨name, value⟩ := field
    have hvalue := h (name, value) (by simp)
      (.object (done.map fun field => (some field.1, field.2)) (some name) :: outer)
      (fieldTokens fields ++ rest) (by rw [List.length_cons]; omega)
    have hrest := ih (fun x hx => h x (by simp [hx])) ((name, value) :: done)
    rw [List.map_cons] at hrest
    rw [fieldTokens]
    simp only [List.cons_append, List.append_assoc]
    rw [run?_cons rfl, run?_cons rfl, run?_cons rfl, hvalue, deliver, hrest]
    simp

/-- The reader builds a plain value from its tokens, by induction on the value. -/
theorem delivers_of_plain {value : Json} (h : Plain depth value) : Delivers depth value := by
  induction h with
  | null => exact fun frames rest _ => rfl
  | bool => exact fun frames rest _ => rfl
  | int => exact fun frames rest _ => rfl
  | text => exact fun frames rest _ => rfl
  | @array depth items _ ih =>
    intro frames rest hdepth
    have hroom : frames.length < greatestDepth := by omega
    cases items with
    | nil =>
      rw [tokens, List.cons_append, List.singleton_append, run?_cons rfl, run?_cons rfl,
        closed_array hroom]
      rfl
    | cons item items =>
      have hitem := ih item (by simp) (.array [] :: frames) (itemTokens items ++ rest)
        (by rw [List.length_cons]; omega)
      have hitems :=
        run?_itemTokens (fun x hx => ih x (List.mem_cons_of_mem _ hx)) hdepth [item] rest
      rw [tokens, List.cons_append, List.cons_append, List.append_assoc, run?_cons rfl,
        run?_firstItem, hitem, deliver, hitems]
      rfl
  | @object depth fields _ ih =>
    intro frames rest hdepth
    have hroom : frames.length < greatestDepth := by omega
    cases fields with
    | nil =>
      rw [tokens, List.cons_append, List.singleton_append, run?_cons rfl, run?_cons rfl]
      exact congrArg (fun value => run? (deliver value frames) rest) (closed_object hroom [] none)
    | cons field fields =>
      obtain ⟨name, value⟩ := field
      have hvalue := ih (name, value) (by simp) (.object [] (some name) :: frames)
        (fieldTokens fields ++ rest) (by rw [List.length_cons]; omega)
      have hfields := run?_fieldTokens (fun x hx => ih x (List.mem_cons_of_mem _ hx)) hdepth
        [(name, value)] rest
      rw [tokens]
      simp only [List.cons_append, List.append_assoc]
      rw [run?_cons rfl, run?_cons rfl, run?_cons rfl, hvalue]
      exact hfields

end Reading

/-- A plain value is read back from its text. -/
theorem read?_pretty {value : Json} (h : Plain greatestDepth value) :
    read? value.pretty = some value := by
  have hsplit := h.splits 0 [] (by rintro c ⟨⟩)
  rw [List.append_nil, tokens?, Option.map_some, List.append_nil] at hsplit
  have hdeliver := Reading.delivers_of_plain h [] [] (by simp)
  rw [List.append_nil] at hdeliver
  rw [read?, pretty, String.toList_ofList, hsplit, Option.bind_eq_bind, Option.bind_some,
    Reading.start, hdeliver]
  rfl

end Json

end Reminders
